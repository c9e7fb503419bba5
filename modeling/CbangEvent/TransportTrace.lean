import CbangEvent.Lifetime

/-!
# What the transport receives after the free

Every primitive a request sends goes through `req.access()`, and `Request::freed`, which the
transport's free runs through `free_cb`, releases `req`: a released request on a freed exchange
sends nothing more, whatever is called on it (`Sealed`).  The constructor with a URI checks the
handle before `init()` and does nothing after it, so it keeps the lifetime invariant.
-/

namespace CbangEvent

/-! ## A released request on a freed exchange -/

/-- A request whose `req` is released and whose exchange is freed stays so, and the transport
receives nothing more from it. -/
def Sealed (world world' : World) : Prop :=
  world.req = false → world.handleLive = false →
    world'.req = false ∧ world'.handleLive = false ∧ world'.trace = world.trace

namespace Sealed

variable {world world' : World}

theorem of_frame (req : world'.req = world.req) (handle : world'.handleLive = world.handleLive)
    (trace : world'.trace = world.trace) : Sealed world world' :=
  fun released freed => ⟨req.trans released, handle.trans freed, trace⟩

instance : IsRefl World Sealed :=
  ⟨fun _ => of_frame rfl rfl rfl⟩

instance : IsTrans World Sealed :=
  ⟨fun _ _ _ first second released freed =>
    let ⟨released', freed', trace⟩ := first released freed
    let ⟨released'', freed'', trace'⟩ := second released' freed'
    ⟨released'', freed'', trace'.trans trace⟩⟩

theorem touch : Guarantee Sealed Request.touch :=
  Guarantee.modify fun _ => of_frame rfl rfl rfl

/-- A method that starts with `req.access()` stops there on a released request. -/
theorem access_bind {α : Type} {rest : Unit → RequestM α} :
    Guarantee Sealed (Request.access >>= rest) := by
  intro world released
  rw [raises_of_first (Request.access_of_released released)]
  exact of_frame rfl rfl rfl released

theorem setFinalized : Guarantee Sealed Request.setFinalized :=
  Guarantee.bind touch fun _ => Guarantee.modify fun _ => of_frame rfl rfl rfl

theorem finalize : Guarantee Sealed Request.finalize :=
  Guarantee.finalize touch (fun _ => access_bind) setFinalized

/-- Every primitive sends nothing from a released request on a freed exchange. -/
theorem primitives : Primitives Sealed where
  touch := touch
  setFinalized := setFinalized
  modifyOutputHeaders _ := access_bind
  modifyOutputBuffer _ := access_bind
  evhttpSendReplyStart _ := access_bind
  evhttpSendReplyChunk _ := access_bind
  evhttpCancelRequest := access_bind
  finalizeSendReply _ _ :=
    Guarantee.bind finalize fun _ => Guarantee.bind access_bind fun _ => access_bind
  finalizeSendError _ := Guarantee.bind finalize fun _ => access_bind
  finalizeSendReplyEnd := Guarantee.bind finalize fun _ => access_bind

/-- `~Request` cancels only through `req.access()`. -/
theorem destroy : Guarantee Sealed Request.destroy :=
  Guarantee.destroy touch (fun _ => of_frame rfl rfl rfl) access_bind fun _ => of_frame rfl rfl rfl

theorem dropReference : Guarantee Sealed Request.dropReference :=
  Guarantee.bind Guarantee.get fun _ => Guarantee.bind (Guarantee.modify fun _ => of_frame rfl rfl rfl)
    fun _ => Guarantee.ite destroy (Guarantee.pure _)

variable (parseDouble : List Char → Except Error ℚ) (encode : Compression → Bytes → Bytes)

/-- Every step, allowed or not, keeps a released request on a freed exchange silent. -/
theorem step (step : Step) (world : World) :
    Sealed world (step.run parseDouble encode world) := by
  cases step with
  | call method => exact primitives.call parseDouble encode method world
  | acquire => exact of_frame rfl rfl rfl
  | drop => exact dropReference world
  | transportFree =>
      intro released freed
      rw [Step.run, freed]
      exact ⟨released, freed, rfl⟩
  | loseConnection => exact of_frame rfl rfl rfl

theorem run (steps : List Step) (world : World) :
    Sealed world (CbangEvent.run parseDouble encode steps world) := by
  induction steps generalizing world with
  | nil => exact IsRefl.refl world
  | cons step steps ih => exact IsTrans.trans _ _ _ (Sealed.step parseDouble encode step world) (ih _)

end Sealed

section Runs

variable (parseDouble : List Char → Except Error ℚ) (encode : Compression → Bytes → Bytes)
  {inputHeaders : Headers} {version : Nat × Nat} {deallocate : Bool}
  {uri : Except Error (Option String)} {peer : Option (Except Error IPAddress)} {world : World}

/-- Once the transport has freed the exchange of a request, in an allowed run from a returned
constructor, nothing more reaches it: the rest of the run leaves the trace as it was and the
exchange freed. -/
theorem transport_quiet_after_free
    (constructed :
      Request.newRequest uri peer (Request.delivered inputHeaders version deallocate) =
        .ok () world)
    (steps rest : List Step) (allowed : allowedRun parseDouble encode (steps ++ rest) world = true)
    (freed : (run parseDouble encode steps world).handleLive = false) :
    (run parseDouble encode (steps ++ rest) world).trace =
        (run parseDouble encode steps world).trace ∧
      (run parseDouble encode (steps ++ rest) world).handleLive = false := by
  rw [allowedRun_append, Bool.and_eq_true] at allowed
  have live := (Lifetime.Inv.of_newRequest constructed).run parseDouble encode steps allowed.1
  obtain ⟨-, freed', trace⟩ := Sealed.run parseDouble encode rest _
    (live.req_eq.trans freed) freed
  rw [run_append]
  exact ⟨trace, freed'⟩

theorem transport_quiet_after_reply_and_free :
    (run Negotiation.specParseDouble (fun _ bytes => bytes)
        ([.acquire, .call (.reply 200), .transportFree] ++ [.call (.startChunked 200), .call .cancel])
        (finalState (Request.newRequest (.ok none) none
          (Request.delivered ⟨[]⟩ (1, 1) false)))).trace =
      (run Negotiation.specParseDouble (fun _ bytes => bytes)
        [.acquire, .call (.reply 200), .transportFree]
        (finalState (Request.newRequest (.ok none) none
          (Request.delivered ⟨[]⟩ (1, 1) false)))).trace ∧
    (run Negotiation.specParseDouble (fun _ bytes => bytes)
        ([.acquire, .call (.reply 200), .transportFree] ++ [.call (.startChunked 200), .call .cancel])
        (finalState (Request.newRequest (.ok none) none
          (Request.delivered ⟨[]⟩ (1, 1) false)))).handleLive = false :=
  @transport_quiet_after_free _ _ ⟨[]⟩ (1, 1) false (.ok none) none _ (by rfl) _ _ (by rfl) (by rfl)

end Runs

/-! ## The constructor with a URI -/

section URIConstructor

variable (parseDouble : List Char → Except Error ℚ) (encode : Compression → Bytes → Bytes)

/-- `Request(req, uri, deallocate)` checks the handle before `init()` and does nothing after
it: on a null handle it raises with no callback registered and no self reference taken, and
on a delivered exchange it returns, with `clientIP` the URI's address.  Every allowed run from
it then frees the exchange at most once, destroys the object at most once and exactly when no
reference is left, and never reaches it after. -/
theorem uri_constructor_keeps_lifetime (inputHeaders : Headers) (version : Nat × Nat)
    (deallocate : Bool) (guessed : Option String) (address : IPAddress) :
    (∃ world', Request.newRequestWithURI guessed address
        { Request.delivered inputHeaders version deallocate with req := false } =
          .error (.exception "Event request cannot be null") world' ∧
        world'.callback = false ∧ world'.selfRef = false) ∧
    (∃ world, Request.newRequestWithURI guessed address
        (Request.delivered inputHeaders version deallocate) = .ok () world) ∧
    ∀ world, Request.newRequestWithURI guessed address
        (Request.delivered inputHeaders version deallocate) = .ok () world →
      world.clientIP = some address ∧
      ∀ steps, allowedRun parseDouble encode steps world = true →
        (run parseDouble encode steps world).frees ≤ 1 ∧
          (run parseDouble encode steps world).destructions ≤ 1 ∧
          ((run parseDouble encode steps world).destroyed = true ↔
            (run parseDouble encode steps world).appRefs = 0 ∧
              (run parseDouble encode steps world).handleLive = false) ∧
          (run parseDouble encode steps world).staleAccesses = 0 ∧
          (run parseDouble encode steps world).staleCallbacks = 0 := by
  refine ⟨⟨_, rfl, rfl, rfl⟩, ⟨_, rfl⟩, fun world constructed => ?_⟩
  cases constructed
  have live : Lifetime.Inv ⟨true, true, true, 0, 0, true, false, 0, 0, 0⟩ := by decide
  exact ⟨rfl, fun steps allowed =>
    (Lifetime.Inv.run parseDouble encode (by exact live) steps allowed).on_world⟩

theorem uri_constructor_reply_free_drop :
    ((run Negotiation.specParseDouble (fun _ bytes => bytes)
        [.acquire, .call (.reply 200), .transportFree, .drop]
        (finalState (Request.newRequestWithURI none ⟨"example.org", 0, 80⟩
          (Request.delivered ⟨[]⟩ (1, 1) true)))).destroyed = true ↔
      (run Negotiation.specParseDouble (fun _ bytes => bytes)
        [.acquire, .call (.reply 200), .transportFree, .drop]
        (finalState (Request.newRequestWithURI none ⟨"example.org", 0, 80⟩
          (Request.delivered ⟨[]⟩ (1, 1) true)))).appRefs = 0 ∧
      (run Negotiation.specParseDouble (fun _ bytes => bytes)
        [.acquire, .call (.reply 200), .transportFree, .drop]
        (finalState (Request.newRequestWithURI none ⟨"example.org", 0, 80⟩
          (Request.delivered ⟨[]⟩ (1, 1) true)))).handleLive = false) :=
  (((uri_constructor_keeps_lifetime _ _ ⟨[]⟩ (1, 1) true none ⟨"example.org", 0, 80⟩).2.2 _
    rfl).2 _ (by rfl)).2.2.1

end URIConstructor

end CbangEvent
