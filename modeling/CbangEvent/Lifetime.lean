import CbangEvent.Delivery

/-!
# Lifetime of the request and of its exchange

`init()` registers `free_cb` and takes a self reference; the transport's free runs
`Request::freed`, which releases `req` before it drops that reference, and the last reference
destroys the object.  `Lifetime.Inv` ties these together, and every step the application takes
through a reference it holds keeps it; `cancel()` on a synchronous free and a constructor that
raises after `init()` leave it.
-/

namespace CbangEvent

/-- The part of the world that the lifetimes of the object and of its exchange consist of. -/
structure Lifetime where
  req : Bool
  handleLive : Bool
  callback : Bool
  frees : Nat
  appRefs : Nat
  selfRef : Bool
  destroyed : Bool
  destructions : Nat
  staleAccesses : Nat
  staleCallbacks : Nat
  deriving DecidableEq, Repr

/-- The lifetime fields of a world. -/
def World.lifetime (world : World) : Lifetime :=
  ⟨world.req, world.handleLive, world.callback, world.frees, world.appRefs, world.selfRef,
    world.destroyed, world.destructions, world.staleAccesses, world.staleCallbacks⟩

/-- A read or write of a field of a live object is no use after free. -/
theorem World.touched_of_alive {world : World} (alive : world.destroyed = false) :
    world.touched = world := by
  obtain ⟨⟩ := world
  cases alive
  rfl

namespace Lifetime

/-- The lifetime of a request whose constructor returned.  The object holds `req` exactly
while the transport has not freed the exchange, and so does its self reference; `free_cb`
stays registered; the exchange is freed at most once; the object is destroyed exactly when no
reference is left, and then once; and neither a method nor `free_cb` reached it after. -/
@[mk_iff]
structure Inv (life : Lifetime) : Prop where
  req_eq : life.req = life.handleLive
  selfRef_eq : life.selfRef = life.handleLive
  callback : life.callback = true
  frees : life.frees + life.handleLive.toNat = 1
  destroyed_iff : life.destroyed = true ↔ life.appRefs = 0 ∧ life.selfRef = false
  destructions : life.destructions = life.destroyed.toNat
  staleAccesses : life.staleAccesses = 0
  staleCallbacks : life.staleCallbacks = 0

instance (life : Lifetime) : Decidable (Inv life) :=
  decidable_of_iff _ (inv_iff life).symm

variable {life : Lifetime}

/-- An object the application holds a reference to is alive. -/
theorem Inv.alive (live : Inv life) (held : 0 < life.appRefs) : life.destroyed = false :=
  Bool.eq_false_iff.mpr fun destroyed =>
    Nat.pos_iff_ne_zero.mp held (live.destroyed_iff.mp destroyed).1

/-- An object whose exchange is live is alive: its self reference keeps it. -/
theorem Inv.alive_of_handle (live : Inv life) (handle : life.handleLive = true) :
    life.destroyed = false :=
  Bool.eq_false_iff.mpr fun destroyed =>
    nomatch (live.selfRef_eq.trans handle).symm.trans (live.destroyed_iff.mp destroyed).2

end Lifetime

/-! ## What the lifetime steps do -/

namespace Request

variable {world : World}

theorem access_of_released (released : world.req = false) :
    access world = .error .nullPointer world.touched := by
  obtain ⟨⟩ := world
  cases released
  rfl

/-- The transport frees the live exchange of a request in its lifetime: `freed` releases
`req` and drops the self reference, which destroys the object when the application holds no
reference.  `req` is released by then, so `~Request` cancels nothing. -/
theorem freeExchange_freed_of_inv (live : Lifetime.Inv world.lifetime)
    (handle : world.handleLive = true) :
    freeExchange freed world = .ok ()
      { world with
        req := false, handleLive := false, frees := world.frees + 1,
        selfRef := false, destroyed := decide (world.appRefs = 0),
        destructions := world.destructions + (decide (world.appRefs = 0)).toNat } := by
  have held : world.req = true := live.req_eq.trans handle
  have self : world.selfRef = true := live.selfRef_eq.trans handle
  have alive := live.alive_of_handle handle
  have registered : world.callback = true := live.callback
  cases refs : world.appRefs <;> obtain ⟨⟩ := world <;> cases held <;> cases self <;>
    cases alive <;> cases registered <;> cases refs <;> rfl

/-- The application drops a reference to a request in its lifetime.  The last one, with the
self reference gone, destroys the object, whose `req` is released by then. -/
theorem dropReference_of_inv (live : Lifetime.Inv world.lifetime) (held : 0 < world.appRefs) :
    dropReference world = .ok ()
      { world with
        appRefs := world.appRefs - 1,
        destroyed := decide (world.appRefs = 1 ∧ world.selfRef = false),
        destructions :=
          world.destructions + (decide (world.appRefs = 1 ∧ world.selfRef = false)).toNat } := by
  have alive := live.alive held
  have released : world.req = world.selfRef := live.req_eq.trans live.selfRef_eq.symm
  obtain ⟨n, refs⟩ : ∃ n, world.appRefs = n + 1 := ⟨_, (Nat.succ_pred_eq_of_pos held).symm⟩
  cases self : world.selfRef <;> rw [self] at released <;> cases n <;> obtain ⟨⟩ := world <;>
    cases alive <;> cases self <;> cases released <;> cases refs <;> rfl

/-- A response primitive of a live request that holds its exchange: on a lost connection the
transport frees the exchange inside a terminal one. -/
theorem transportSend_of_req (primitive : Primitive) (held : world.req = true)
    (alive : world.destroyed = false) :
    transportSend primitive world =
      (if world.connectionLost && primitive.Terminal then freeExchange freed else pure ())
        { world with trace := world.trace ++ [primitive] } := by
  obtain ⟨⟩ := world
  cases held
  cases alive
  rfl

/-- `evhttp_cancel_request` on a live request that holds its exchange: the transport frees the
exchange inside the call on an outgoing exchange or a lost connection. -/
theorem evhttpCancelRequest_of_req (held : world.req = true) (alive : world.destroyed = false) :
    evhttpCancelRequest world =
      (if world.connectionLost || !world.incomingConnection then freeExchange freed else pure ())
        { world with trace := world.trace ++ [.cancelRequest] } := by
  obtain ⟨⟩ := world
  cases held
  cases alive
  rfl

end Request

namespace Lifetime

variable {world : World}

/-- The transport's free keeps the invariant and the application's references. -/
theorem Inv.freeExchange (live : Inv world.lifetime) (handle : world.handleLive = true) :
    Inv (finalState (Request.freeExchange Request.freed world)).lifetime ∧
      (finalState (Request.freeExchange Request.freed world)).appRefs = world.appRefs := by
  have alive : world.destroyed = false := live.alive_of_handle handle
  rw [Request.freeExchange_freed_of_inv live handle]
  rw [inv_iff] at live ⊢
  simp only [World.lifetime, handle, alive, Bool.toNat_true, Bool.toNat_false] at live ⊢
  simp only [finalState_ok, decide_eq_true_eq, and_true, Bool.toNat_false, live, true_and]
  omega

/-- A dropped reference keeps the invariant. -/
theorem Inv.dropReference (live : Inv world.lifetime) (held : 0 < world.appRefs) :
    Inv (finalState (Request.dropReference world)).lifetime := by
  have alive : world.destroyed = false := live.alive held
  have last : world.appRefs - 1 = 0 ↔ world.appRefs = 1 := by omega
  rw [Request.dropReference_of_inv live held]
  rw [inv_iff] at live ⊢
  simp only [World.lifetime, alive, Bool.toNat_false] at live ⊢
  simp only [finalState_ok, decide_eq_true_eq, last, live, true_and, Nat.zero_add, and_true]

end Lifetime

/-! ## Calls made through a reference -/

/-- What a method keeps when the application calls it through a reference it holds: the
lifetime invariant and the application's references. -/
def Keeps (world world' : World) : Prop :=
  Lifetime.Inv world.lifetime → 0 < world.appRefs →
    Lifetime.Inv world'.lifetime ∧ world'.appRefs = world.appRefs

namespace Keeps

instance : IsRefl World Keeps :=
  ⟨fun _ live _ => ⟨live, rfl⟩⟩

instance : IsTrans World Keeps :=
  ⟨fun _ _ _ first second live held =>
    let ⟨live', refs⟩ := first live held
    let ⟨live'', refs'⟩ := second live' (refs ▸ held)
    ⟨live'', refs'.trans refs⟩⟩

variable {world world' : World}

theorem of_lifetime (same : world'.lifetime = world.lifetime) : Keeps world world' :=
  fun live _ => ⟨same ▸ live, congrArg Lifetime.appRefs same⟩

theorem touched (world : World) : Keeps world world.touched :=
  fun live held => by rw [World.touched_of_alive (live.alive held)]; exact ⟨live, rfl⟩

theorem touch : Guarantee Keeps Request.touch :=
  Guarantee.modify touched

theorem setFinalized : Guarantee Keeps Request.setFinalized :=
  Guarantee.bind touch fun _ => Guarantee.modify fun _ => of_lifetime rfl

theorem modifyOutputHeaders (change : Headers → Headers) :
    Guarantee Keeps (Request.modifyOutputHeaders change) :=
  Guarantee.bind (Guarantee.access touch) fun _ => Guarantee.modify fun _ => of_lifetime rfl

theorem modifyOutputBuffer (change : Bytes → Bytes) :
    Guarantee Keeps (Request.modifyOutputBuffer change) :=
  Guarantee.bind (Guarantee.access touch) fun _ => Guarantee.modify fun _ => of_lifetime rfl

/-- A free the object asks for while the application holds a reference destroys nothing. -/
theorem freeExchange (held : world.req = true) :
    Keeps world (finalState (Request.freeExchange Request.freed world)) :=
  fun live _ => live.freeExchange (live.req_eq.symm.trans held)

/-- A method that starts with `req.access()` stops there once `req` is released. -/
theorem access_bind_of_released {α : Type} {rest : Unit → RequestM α}
    (released : world.req = false) : Keeps world (finalState ((Request.access >>= rest) world)) := by
  rw [raises_of_first (Request.access_of_released released)]
  exact touched world

/-- A primitive sent on a request that holds its exchange, with the free it may bring. -/
theorem sent (held : world.req = true) (primitive : Primitive) (frees : Bool) :
    Keeps world (finalState ((if frees then Request.freeExchange Request.freed else pure ())
      { world with trace := world.trace ++ [primitive] })) := by
  cases frees
  · exact of_lifetime rfl
  · exact IsTrans.trans _ _ _ (of_lifetime rfl)
      (@freeExchange { world with trace := world.trace ++ [primitive] } held)

theorem transportSend (primitive : Primitive) :
    Guarantee Keeps (Request.transportSend primitive) := by
  intro world live referenced
  cases held : world.req
  · exact access_bind_of_released held live referenced
  · rw [Request.transportSend_of_req primitive held (live.alive referenced)]
    exact sent held primitive _ live referenced

theorem evhttpCancelRequest : Guarantee Keeps Request.evhttpCancelRequest := by
  intro world live referenced
  cases held : world.req
  · exact access_bind_of_released held live referenced
  · rw [Request.evhttpCancelRequest_of_req held (live.alive referenced)]
    exact sent held .cancelRequest _ live referenced

theorem finalize : Guarantee Keeps Request.finalize :=
  Guarantee.finalize touch modifyOutputHeaders setFinalized

/-- Every primitive keeps the lifetime when called through a reference. -/
theorem primitives : Primitives Keeps where
  touch := touch
  setFinalized := setFinalized
  modifyOutputHeaders := modifyOutputHeaders
  modifyOutputBuffer := modifyOutputBuffer
  evhttpSendReplyStart _ := transportSend _
  evhttpSendReplyChunk _ := transportSend _
  evhttpCancelRequest := evhttpCancelRequest
  finalizeSendReply _ _ := Guarantee.bind finalize fun _ =>
    Guarantee.bind (modifyOutputBuffer _) fun _ => transportSend _
  finalizeSendError _ := Guarantee.bind finalize fun _ => transportSend _
  finalizeSendReplyEnd := Guarantee.bind finalize fun _ => transportSend _

end Keeps

/-! ## Runs -/

section Runs

variable (parseDouble : List Char → Except Error ℚ) (encode : Compression → Bytes → Bytes)

/-- The steps the application may take at a world: it calls methods and drops references
only through a reference it holds, and takes a new one only while the object lives. -/
def Step.allowed (world : World) : Step → Bool
  | .call _ | .drop => decide (0 < world.appRefs)
  | .acquire => !world.destroyed
  | .transportFree | .loseConnection => true

/-- Every step of the run is allowed at the world it is taken in. -/
def allowedRun : List Step → World → Bool
  | [], _ => true
  | step :: steps, world =>
      step.allowed world && allowedRun steps (step.run parseDouble encode world)

theorem allowedRun_append (steps rest : List Step) (world : World) :
    allowedRun parseDouble encode (steps ++ rest) world =
      (allowedRun parseDouble encode steps world &&
        allowedRun parseDouble encode rest (run parseDouble encode steps world)) := by
  induction steps generalizing world with
  | nil => rfl
  | cons step steps ih => rw [List.cons_append, allowedRun, allowedRun, ih, run_cons, Bool.and_assoc]

namespace Lifetime

/-- An allowed step keeps the invariant. -/
theorem Inv.step {world : World} (live : Inv world.lifetime) {step : Step}
    (allowed : step.allowed world = true) : Inv (step.run parseDouble encode world).lifetime := by
  cases step with
  | call method =>
      exact (Keeps.primitives.call parseDouble encode method world live
        (by simpa [Step.allowed] using allowed)).1
  | acquire =>
      have alive : world.destroyed = false := by simpa [Step.allowed] using allowed
      exact ⟨live.req_eq, live.selfRef_eq, live.callback, live.frees,
        by simp [Step.run, World.lifetime, alive], live.destructions, live.staleAccesses,
        live.staleCallbacks⟩
  | drop => exact live.dropReference (by simpa [Step.allowed] using allowed)
  | transportFree =>
      cases handle : world.handleLive
      · simpa [Step.run, handle] using live
      · simpa [Step.run, handle] using (live.freeExchange handle).1
  | loseConnection => exact live

/-- Every allowed run keeps the invariant. -/
theorem Inv.run {world : World} (live : Inv world.lifetime) (steps : List Step)
    (allowed : allowedRun parseDouble encode steps world = true) :
    Inv (CbangEvent.run parseDouble encode steps world).lifetime := by
  induction steps generalizing world with
  | nil => exact live
  | cons step steps ih =>
      simp only [allowedRun, Bool.and_eq_true] at allowed
      exact ih (live.step parseDouble encode allowed.1) allowed.2

end Lifetime

end Runs

/-! ## Construction -/

namespace Request

variable {inputHeaders : Headers} {version : Nat × Nat} {deallocate : Bool}
  {uri : Except Error (Option String)} {peer : Option (Except Error IPAddress)} {world' : World}

/-- A constructor that returns on a delivered exchange has registered `free_cb` and taken the
self reference, and nothing refers to the object but that. -/
theorem newRequest_returns
    (returned : newRequest uri peer (delivered inputHeaders version deallocate) = .ok () world') :
    world'.lifetime = ⟨true, true, true, 0, 0, true, false, 0, 0, 0⟩ := by
  rcases uri with _ | guessed
  · cases returned
  · rcases peer with _ | _ | address <;> cases returned <;> rfl

end Request

/-- A constructor that returns starts the lifetime. -/
theorem Lifetime.Inv.of_newRequest {inputHeaders : Headers} {version : Nat × Nat}
    {deallocate : Bool} {uri : Except Error (Option String)}
    {peer : Option (Except Error IPAddress)} {world : World}
    (constructed :
      Request.newRequest uri peer (Request.delivered inputHeaders version deallocate) =
        .ok () world) :
    Lifetime.Inv world.lifetime := by
  rw [Request.newRequest_returns constructed]
  decide

section Runs

variable (parseDouble : List Char → Except Error ℚ) (encode : Compression → Bytes → Bytes)

/-- The invariant read on the world's fields: the exchange freed at most once, the object
destroyed at most once and exactly when no reference is left, and never reached after. -/
theorem Lifetime.Inv.on_world {world : World} (live : Lifetime.Inv world.lifetime) :
    world.frees ≤ 1 ∧ world.destructions ≤ 1 ∧
      (world.destroyed = true ↔ world.appRefs = 0 ∧ world.handleLive = false) ∧
      world.staleAccesses = 0 ∧ world.staleCallbacks = 0 := by
  rw [Lifetime.inv_iff] at live
  simp only [World.lifetime] at live
  obtain ⟨-, self, -, frees, destroyed, destructions, stale, staleCallbacks⟩ := live
  exact ⟨by omega, destructions ▸ Bool.toNat_le _, by rw [destroyed, self], stale, staleCallbacks⟩

/-- From a constructor that returned, over every run in which the application calls methods
and drops references only through a reference it holds: the exchange is freed at most once,
the object is destroyed at most once and exactly once no reference to it is left, and neither
a method nor `free_cb` reaches it after. -/
theorem lifetime_of_allowed_run {inputHeaders : Headers} {version : Nat × Nat}
    {deallocate : Bool} {uri : Except Error (Option String)}
    {peer : Option (Except Error IPAddress)} {world : World}
    (constructed :
      Request.newRequest uri peer (Request.delivered inputHeaders version deallocate) =
        .ok () world)
    (steps : List Step) (allowed : allowedRun parseDouble encode steps world = true) :
    (run parseDouble encode steps world).frees ≤ 1 ∧
      (run parseDouble encode steps world).destructions ≤ 1 ∧
      ((run parseDouble encode steps world).destroyed = true ↔
        (run parseDouble encode steps world).appRefs = 0 ∧
          (run parseDouble encode steps world).handleLive = false) ∧
      (run parseDouble encode steps world).staleAccesses = 0 ∧
      (run parseDouble encode steps world).staleCallbacks = 0 :=
  ((Lifetime.Inv.of_newRequest constructed).run parseDouble encode steps allowed).on_world

theorem reply_free_drop_destroys_once :
    ((run Negotiation.specParseDouble (fun _ bytes => bytes)
        [.acquire, .call (.reply 200), .transportFree, .drop]
        (finalState (Request.newRequest (.ok none) none
          (Request.delivered ⟨[]⟩ (1, 1) false)))).destroyed = true ↔
      (run Negotiation.specParseDouble (fun _ bytes => bytes)
        [.acquire, .call (.reply 200), .transportFree, .drop]
        (finalState (Request.newRequest (.ok none) none
          (Request.delivered ⟨[]⟩ (1, 1) false)))).appRefs = 0 ∧
      (run Negotiation.specParseDouble (fun _ bytes => bytes)
        [.acquire, .call (.reply 200), .transportFree, .drop]
        (finalState (Request.newRequest (.ok none) none
          (Request.delivered ⟨[]⟩ (1, 1) false)))).handleLive = false) ∧
    (run Negotiation.specParseDouble (fun _ bytes => bytes)
        [.acquire, .call (.reply 200), .transportFree, .drop]
        (finalState (Request.newRequest (.ok none) none
          (Request.delivered ⟨[]⟩ (1, 1) false)))).destructions ≤ 1 :=
  let kept := @lifetime_of_allowed_run Negotiation.specParseDouble (fun _ bytes => bytes) ⟨[]⟩ (1, 1)
    false (.ok none) none _ (by rfl) [.acquire, .call (.reply 200), .transportFree, .drop] (by rfl)
  ⟨kept.2.2.1, kept.2.1⟩

end Runs

/-! ## Where the lifetime breaks -/

/-- A request in its lifetime that only its self reference keeps alive is reached after it is
destroyed.  On an outgoing exchange or a lost connection, `cancel()` writes `finalized` after
`evhttp_cancel_request` has run `free_cb`, which drops the last reference.  On a lost
connection the reply of `sendJSONError` frees the exchange the same way, and the writer's
destructor then sends its empty buffer through the destroyed request. -/
theorem request_reached_after_destruction (world : World) (live : Lifetime.Inv world.lifetime)
    (handle : world.handleLive = true) (unreferenced : world.appRefs = 0) :
    (world.connectionLost = true ∨ world.incomingConnection = false → ∃ world',
      Request.cancel world = .ok () world' ∧ world'.destroyed = true ∧
        world'.staleAccesses = 1) ∧
    (world.finalized = false → world.connectionLost = true →
      ∀ encode code rendered, ∃ world',
        Request.sendJSONError encode code rendered world = .ok () world' ∧
        world'.destroyed = true ∧ world'.staleAccesses = 1) := by
  have held : world.req = true := live.req_eq.trans handle
  have alive : world.destroyed = false := live.alive_of_handle handle
  have stale : world.staleAccesses = 0 := live.staleAccesses
  refine ⟨fun synchronous => ?_, fun unfinalized lost encode code rendered => ?_⟩
  · have frees : (world.connectionLost || !world.incomingConnection) = true := by
      rcases synchronous with condition | condition <;> simp [condition]
    have cancelled := Request.evhttpCancelRequest_of_req held alive
    rw [if_pos frees, @Request.freeExchange_freed_of_inv
      { world with trace := world.trace ++ [.cancelRequest] } live handle] at cancelled
    exact ⟨_, returns_bind cancelled rfl, by simp [World.touched, unreferenced],
      by simp [World.touched, stale, unreferenced]⟩
  · have self : world.selfRef = true := live.selfRef_eq.trans handle
    have registered : world.callback = true := live.callback
    obtain ⟨⟩ := world
    cases held; cases self; cases alive; cases registered; cases stale; cases unreferenced
    cases unfinalized
    cases lost
    refine ⟨_, returns_bind rfl (JSONWriter.withLocal_returns encode (returns_bind rfl
      (returns_bind rfl (JSONWriter.lift_returns _ (returns_bind (returns_bind rfl (returns_bind rfl
        (returns_bind rfl (returns_bind (Request.hasContentType_of_present rfl
          (Headers.has_set_self _ _)) rfl)))) rfl))))), rfl, rfl⟩

theorem request_reached_after_destruction_on_lost_connection :
    (∃ world', Request.cancel
        { finalState (Request.newRequest (.ok none) none (Request.delivered ⟨[]⟩ (1, 1) false)) with
          connectionLost := true } = .ok () world' ∧
      world'.destroyed = true ∧ world'.staleAccesses = 1) ∧
    ∃ world', Request.sendJSONError (fun _ bytes => bytes) 404 "[\"error\",\"gone\"]".toList
        { finalState (Request.newRequest (.ok none) none (Request.delivered ⟨[]⟩ (1, 1) false)) with
          connectionLost := true } = .ok () world' ∧
      world'.destroyed = true ∧ world'.staleAccesses = 1 :=
  ⟨(request_reached_after_destruction _ (by decide) rfl rfl).1 (.inl rfl),
    (request_reached_after_destruction _ (by decide) rfl rfl).2 rfl rfl _ _ _⟩

/-- A constructor that raises after `init()`, on a URI the parser rejects or on a failed peer
lookup, leaves `free_cb` registered and the self reference taken on memory `new` gives back,
and the transport's next free of the exchange runs `free_cb` on the destroyed object.  A
constructor that returns has registered the callback and taken the self reference. -/
theorem construction_raise_leaves_callback (inputHeaders : Headers) (version : Nat × Nat)
    (deallocate : Bool) (uri : Except Error (Option String))
    (peer : Option (Except Error IPAddress)) :
    (∀ error, (uri = .error error ∨ ∃ guessed, uri = .ok guessed ∧ peer = some (.error error)) →
      ∃ world', Request.newRequest uri peer (Request.delivered inputHeaders version deallocate) =
          .error error world' ∧
        world'.callback = true ∧ world'.selfRef = true ∧ world'.destroyed = true ∧
        (finalState (Request.freeExchange Request.freed world')).staleCallbacks = 1) ∧
    (∀ world', Request.newRequest uri peer (Request.delivered inputHeaders version deallocate) =
        .ok () world' → world'.callback = true ∧ world'.selfRef = true) := by
  refine ⟨fun error fails => ?_, fun world' returned => ?_⟩
  · rcases fails with rfl | ⟨guessed, rfl, rfl⟩ <;> exact ⟨_, rfl, rfl, rfl, rfl, rfl⟩
  · have life := Request.newRequest_returns returned
    exact ⟨congrArg Lifetime.callback life, congrArg Lifetime.selfRef life⟩

theorem construction_raise_on_bad_uri :
    ∃ world', Request.newRequest (.error (.exception "Invalid URI")) none
        (Request.delivered ⟨[]⟩ (1, 1) false) = .error (.exception "Invalid URI") world' ∧
      world'.callback = true ∧ world'.selfRef = true ∧ world'.destroyed = true ∧
      (finalState (Request.freeExchange Request.freed world')).staleCallbacks = 1 :=
  (construction_raise_leaves_callback _ _ _ _ _).1 _ (.inl rfl)

end CbangEvent
