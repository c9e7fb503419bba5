import CbangEvent.Run

/-!
# Finalization

`finalize` is the gate of the response: it raises when `finalized` is set and sets it
otherwise.  Each method that sends a terminal primitive calls it just before, so a request
sends at most one terminal primitive, in the call that set the flag, and none once `cancel()`
has returned.

Besides `finalize`, only `resetOutput` reads the flag.  The methods that reach one of the two
before they write raise on a finalized request and leave the response as it was; the others
write a finalized response as they write an open one.
-/

namespace CbangEvent

/-- The terminal primitives of a trace. -/
def terminalCount (trace : List Primitive) : Nat :=
  trace.countP Primitive.Terminal

@[simp] theorem terminalCount_append_singleton (trace : List Primitive) (primitive : Primitive) :
    terminalCount (trace ++ [primitive]) = terminalCount trace + primitive.Terminal.toNat := by
  cases terminal : primitive.Terminal <;> simp [terminalCount, terminal]

/-! ## Methods that send no terminal primitive -/

/-- A method keeps `finalized`, only appends to the trace, and sends at most `n` terminal
primitives. -/
def Emits (n : Nat) (world world' : World) : Prop :=
  world'.finalized = world.finalized ∧ world.trace <+: world'.trace ∧
    terminalCount world'.trace ≤ terminalCount world.trace + n

namespace Emits

variable {m n k : Nat} {world world' world'' : World}

theorem frame (finalized : world'.finalized = world.finalized)
    (trace : world'.trace = world.trace) : Emits n world world' :=
  ⟨finalized, trace ▸ List.prefix_refl _, by rw [trace]; omega⟩

theorem trans (first : Emits m world world') (second : Emits n world' world'')
    (bound : m + n ≤ k) : Emits k world world'' :=
  ⟨second.1.trans first.1, first.2.1.trans second.2.1, by have := first.2.2; have := second.2.2; omega⟩

theorem mono (quiet : Emits m world world') (bound : m ≤ n) : Emits n world world' :=
  ⟨quiet.1, quiet.2.1, by have := quiet.2.2; omega⟩

instance : IsRefl World (Emits 0) :=
  ⟨fun _ => frame rfl rfl⟩

instance : IsTrans World (Emits 0) :=
  ⟨fun _ _ _ first second => first.trans second le_rfl⟩

theorem touch : Guarantee (Emits 0) Request.touch :=
  Guarantee.modify fun _ => frame rfl rfl

theorem access : Guarantee (Emits 0) Request.access :=
  Guarantee.access touch

theorem modifyOutputHeaders (change : Headers → Headers) :
    Guarantee (Emits 0) (Request.modifyOutputHeaders change) :=
  Guarantee.bind access fun _ => Guarantee.modify fun _ => frame rfl rfl

theorem modifyOutputBuffer (change : Bytes → Bytes) :
    Guarantee (Emits 0) (Request.modifyOutputBuffer change) :=
  Guarantee.bind access fun _ => Guarantee.modify fun _ => frame rfl rfl

theorem emit (primitive : Primitive) :
    Guarantee (Emits primitive.Terminal.toNat) (Request.emit primitive) :=
  Guarantee.modify fun _ => ⟨rfl, List.prefix_append _ _, by simp⟩

theorem emit_cancelRequest : Guarantee (Emits 0) (Request.emit .cancelRequest) :=
  emit _

theorem freeExchange {onFree : RequestM Unit} (guarantees : Guarantee (Emits 0) onFree) :
    Guarantee (Emits 0) (Request.freeExchange onFree) :=
  Guarantee.bind (Guarantee.modify fun _ => frame rfl rfl) fun _ =>
    Guarantee.bind Guarantee.get fun _ => Guarantee.ite
      (Guarantee.bind (Guarantee.modify fun _ => frame rfl rfl) fun _ => guarantees)
      (Guarantee.pure _)

theorem destroy : Guarantee (Emits 0) Request.destroy :=
  Guarantee.destroy touch (fun _ => frame rfl rfl)
    (Guarantee.cancelExchange touch emit_cancelRequest (freeExchange (Guarantee.pure _)))
    fun _ => frame rfl rfl

theorem contentTypeFallback : Guarantee (Emits 0) Request.contentTypeFallback :=
  Guarantee.contentTypeFallback touch modifyOutputHeaders

theorem freed : Guarantee (Emits 0) Request.freed :=
  Guarantee.bind touch fun _ => Guarantee.bind (Guarantee.modify fun _ => frame rfl rfl) fun _ =>
    Guarantee.bind touch fun _ => Guarantee.bind Guarantee.get fun _ =>
      Guarantee.bind (Guarantee.modify fun _ => frame rfl rfl) fun _ =>
        Guarantee.ite destroy (Guarantee.pure _)

/-- A transport primitive is the only terminal primitive a send can add: on a lost
connection the exchange is freed, and `~Request` then sends at most a cancel. -/
theorem transportSend (primitive : Primitive) :
    Guarantee (Emits primitive.Terminal.toNat) (Request.transportSend primitive) :=
  Guarantee.bind_trans access
    (fun _ => Guarantee.bind_trans (emit primitive)
      (fun _ => Guarantee.bind Guarantee.get fun _ =>
        Guarantee.ite (freeExchange freed) (Guarantee.pure _))
      (fun first second => first.trans second le_rfl) (fun first => first))
    (fun first second => first.trans second (Nat.zero_add _).le)
    (fun first => first.mono (Nat.zero_le _))

theorem evhttpCancelRequest : Guarantee (Emits 0) Request.evhttpCancelRequest :=
  Guarantee.cancelExchange touch emit_cancelRequest (freeExchange freed)

theorem evhttpSendReply (code : Int) (body : Bytes) :
    Guarantee (Emits 1) (Request.evhttpSendReply code body) :=
  Guarantee.bind_trans (modifyOutputBuffer _) (fun _ => transportSend (.sendReply code))
    (fun first second => first.trans second le_rfl) (fun first => first.mono (Nat.zero_le _))

theorem dropReference : Guarantee (Emits 0) Request.dropReference :=
  Guarantee.bind Guarantee.get fun _ => Guarantee.bind (Guarantee.modify fun _ => frame rfl rfl)
    fun _ => Guarantee.ite destroy (Guarantee.pure _)

end Emits

/-! ## The gate -/

/-- What a step may do to the flag and the trace: `finalized` is never cleared, the trace
only grows, and its terminal primitives grow no more than the flag does. -/
def FinalizeStep (world world' : World) : Prop :=
  (world.finalized = true → world'.finalized = true) ∧ world.trace <+: world'.trace ∧
    terminalCount world'.trace + world.finalized.toNat ≤
      terminalCount world.trace + world'.finalized.toNat

namespace FinalizeStep

variable {world world' world'' : World}

instance : IsRefl World FinalizeStep :=
  ⟨fun _ => ⟨id, List.prefix_refl _, le_rfl⟩⟩

instance : IsTrans World FinalizeStep :=
  ⟨fun _ _ _ first second => ⟨second.1 ∘ first.1, first.2.1.trans second.2.1, by
    have := first.2.2; have := second.2.2; omega⟩⟩

theorem of_emits (quiet : Emits 0 world world') : FinalizeStep world world' :=
  ⟨fun set => quiet.1 ▸ set, quiet.2.1, by rw [quiet.1]; exact Nat.add_le_add_right quiet.2.2 _⟩

theorem setFinalized : Guarantee FinalizeStep Request.setFinalized :=
  Guarantee.bind (Guarantee.mono of_emits Emits.touch) fun _ =>
    Guarantee.modify fun world =>
      ⟨fun _ => rfl, List.prefix_refl _, by simpa using Bool.toNat_le world.finalized⟩

theorem finalize : Guarantee FinalizeStep Request.finalize :=
  Guarantee.finalize (Guarantee.mono of_emits Emits.touch)
    (fun _ => Guarantee.mono of_emits (Emits.modifyOutputHeaders _)) setFinalized

/-- A `finalize` that returns found the flag clear, set it, and sent nothing terminal. -/
theorem finalize_returns (returned : Request.finalize world = .ok () world') :
    world.finalized = false ∧ world'.finalized = true ∧
      terminalCount world'.trace ≤ terminalCount world.trace := by
  obtain ⟨_, _, getting, rest⟩ := bind_returns returned
  rw [Request.getFinalized_eq] at getting
  cases getting
  cases clear : world.finalized
  case true =>
    simp only [clear, if_true] at rest
    cases rest
  case false =>
    simp only [clear, Bool.false_eq_true, if_false] at rest
    obtain ⟨_, _, passing, rest⟩ := bind_returns rest
    cases passing
    obtain ⟨_, _, setting, falling⟩ := bind_returns rest
    cases setting
    have quiet := Guarantee.of_returns Emits.contentTypeFallback falling
    exact ⟨rfl, quiet.1, quiet.2.2⟩

/-- A terminal primitive sent right after `finalize` is sent in the call that set the flag. -/
theorem finalize_then {send : RequestM Unit} (sends : Guarantee (Emits 1) send) :
    Guarantee FinalizeStep (do Request.finalize; send) := by
  intro world
  show FinalizeStep world (finalState (EStateM.bind Request.finalize (fun _ => send) world))
  unfold EStateM.bind
  cases outcome : Request.finalize world with
  | ok _ opened =>
      obtain ⟨clear, set, quiet⟩ := finalize_returns outcome
      have sent := sends opened
      dsimp only
      refine ⟨fun _ => sent.1.trans set, (finalize.of_returns outcome).2.1.trans sent.2.1, ?_⟩
      rw [clear, sent.1, set, Bool.toNat_false, Bool.toNat_true]
      have := sent.2.2
      omega
  | error _ stopped => simpa [outcome] using finalize world

/-- The primitives keep `FinalizeStep`: terminal ones through the `finalize` before them. -/
theorem primitives : Primitives FinalizeStep where
  touch := Guarantee.mono of_emits Emits.touch
  setFinalized := setFinalized
  modifyOutputHeaders _ := Guarantee.mono of_emits (Emits.modifyOutputHeaders _)
  modifyOutputBuffer _ := Guarantee.mono of_emits (Emits.modifyOutputBuffer _)
  evhttpSendReplyStart code := Guarantee.mono of_emits (Emits.transportSend (.sendReplyStart code))
  evhttpSendReplyChunk chunk :=
    Guarantee.mono of_emits (Emits.transportSend (.sendReplyChunk chunk))
  evhttpCancelRequest := Guarantee.mono of_emits Emits.evhttpCancelRequest
  finalizeSendReply code body := finalize_then (Emits.evhttpSendReply code body)
  finalizeSendError code := finalize_then (Emits.transportSend (.sendError code))
  finalizeSendReplyEnd := finalize_then (Emits.transportSend .sendReplyEnd)

variable (parseDouble : List Char → Except Error ℚ) (encode : Compression → Bytes → Bytes)

theorem of_step (step : Step) (world : World) :
    FinalizeStep world (step.run parseDouble encode world) := by
  cases step with
  | call method => exact primitives.call parseDouble encode method world
  | acquire => exact of_emits (Emits.frame rfl rfl)
  | drop => exact of_emits (Emits.dropReference world)
  | transportFree =>
      by_cases live : world.handleLive
      · simpa [Step.run, live] using of_emits (Emits.freeExchange Emits.freed world)
      · simpa [Step.run, live] using IsRefl.refl (r := FinalizeStep) world
  | loseConnection => exact of_emits (Emits.frame rfl rfl)

theorem of_run (steps : List Step) (world : World) :
    FinalizeStep world (run parseDouble encode steps world) := by
  induction steps generalizing world with
  | nil => exact IsRefl.refl world
  | cons step steps ih => exact IsTrans.trans _ _ _ (of_step parseDouble encode step world) (ih _)

end FinalizeStep

/-- `cancel()` returns only once it has set `finalized`. -/
theorem cancel_returns {world world' : World} (returned : Request.cancel world = .ok () world') :
    world'.finalized = true := by
  obtain ⟨_, _, -, setting⟩ := bind_returns returned
  cases setting
  rfl

section Terminal

variable (parseDouble : List Char → Except Error ℚ) (encode : Compression → Bytes → Bytes)

/-- Over any run from an open request that has sent nothing, at most one terminal primitive
is sent; a step that sends one found `finalized` clear and set it; and once `cancel()` has
returned no run sends one. -/
theorem terminal_primitive_at_most_once :
    (∀ steps world, world.finalized = false → terminalCount world.trace = 0 →
      terminalCount (run parseDouble encode steps world).trace ≤ 1) ∧
    (∀ (step : Step) world,
      terminalCount world.trace < terminalCount (step.run parseDouble encode world).trace →
        world.finalized = false ∧ (step.run parseDouble encode world).finalized = true ∧
          terminalCount (step.run parseDouble encode world).trace =
            terminalCount world.trace + 1) ∧
    (∀ world world', Request.cancel world = .ok () world' → ∀ steps,
      terminalCount (run parseDouble encode steps world').trace = terminalCount world'.trace) := by
  refine ⟨fun steps world clear none => ?_, fun step world more => ?_,
    fun world world' cancelled steps => ?_⟩
  · have gated := (FinalizeStep.of_run parseDouble encode steps world).2.2
    have := Bool.toNat_le (run parseDouble encode steps world).finalized
    rw [clear, none, Bool.toNat_false] at gated
    omega
  · obtain ⟨kept, -, gated⟩ := FinalizeStep.of_step parseDouble encode step world
    have := Bool.toNat_le (step.run parseDouble encode world).finalized
    cases clear : world.finalized <;> cases set : (step.run parseDouble encode world).finalized <;>
      simp only [clear, set, Bool.toNat_false, Bool.toNat_true, Bool.true_eq_false, false_and,
        true_and] at gated kept ⊢ <;> omega
  · obtain ⟨-, grown, gated⟩ := FinalizeStep.of_run parseDouble encode steps world'
    have := Bool.toNat_le (run parseDouble encode steps world').finalized
    have := grown.countP_le Primitive.Terminal
    rw [cancel_returns cancelled, Bool.toNat_true] at gated
    simp only [terminalCount] at gated ⊢
    omega

theorem reply_then_sendError_sends_one :
    terminalCount (run Negotiation.specParseDouble (fun _ bytes => bytes)
        [.acquire, .call (.reply 200), .call (.sendError 404)]
        (Request.delivered ⟨[]⟩ (1, 1) false)).trace ≤ 1 ∧
      (Request.delivered ⟨[]⟩ (1, 1) false).finalized = false ∧
      terminalCount (run Negotiation.specParseDouble (fun _ bytes => bytes) [.call (.reply 200)]
        (finalState (Request.cancel (Request.delivered ⟨[]⟩ (1, 1) false)))).trace =
        terminalCount (finalState (Request.cancel (Request.delivered ⟨[]⟩ (1, 1) false))).trace :=
  let terminal := terminal_primitive_at_most_once Negotiation.specParseDouble (fun _ bytes => bytes)
  ⟨terminal.1 _ _ rfl rfl, (terminal.2.1 (.call (.reply 200)) _ (by decide)).1,
    terminal.2.2 (Request.delivered ⟨[]⟩ (1, 1) false) _ rfl _⟩

end Terminal

/-! ## What a finalized request refuses -/

section Raises

variable {α β : Type} {first : RequestM α} {rest : α → RequestM β} {world world' world'' : World}
  {a : α} {error : Error}

theorem raises_of_first (raising : first world = .error error world') :
    (first >>= rest) world = .error error world' := by
  show EStateM.bind first rest world = _
  simp [EStateM.bind, raising]

theorem raises_after (returned : first world = .ok a world')
    (raising : rest a world' = .error error world'') :
    (first >>= rest) world = .error error world'' := by
  show EStateM.bind first rest world = _
  simp [EStateM.bind, returned, raising]

end Raises

/-- `method` raises `error` and leaves the output headers, the output buffer and the trace
as they were. -/
def RaisesUnchanged {α : Type} (error : Error) (method : RequestM α) (world : World) : Prop :=
  ∃ world', method world = .error error world' ∧ world'.outputHeaders = world.outputHeaders ∧
    world'.outputBuffer = world.outputBuffer ∧ world'.trace = world.trace

namespace RaisesUnchanged

variable {α β : Type} {first : RequestM α} {rest : α → RequestM β} {world world' : World}
  {a : α} {error : Error}

theorem bind (raises : RaisesUnchanged error first world) :
    RaisesUnchanged error (first >>= rest) world :=
  let ⟨world', raising, unchanged⟩ := raises
  ⟨world', raises_of_first raising, unchanged⟩

theorem after (returned : first world = .ok a world')
    (unchanged : world'.outputHeaders = world.outputHeaders ∧
      world'.outputBuffer = world.outputBuffer ∧ world'.trace = world.trace)
    (raises : RaisesUnchanged error (rest a) world') :
    RaisesUnchanged error (first >>= rest) world :=
  let ⟨world'', raising, headers, buffer, trace⟩ := raises
  ⟨world'', raises_after returned raising, headers.trans unchanged.1, buffer.trans unchanged.2.1,
    trace.trans unchanged.2.2⟩

end RaisesUnchanged

namespace Request

variable {world : World}

theorem modifyOutputBuffer_returns (held : world.req = true) (change : Bytes → Bytes) :
    ∃ world', modifyOutputBuffer change world = .ok () world' ∧
      world'.outputHeaders = world.outputHeaders ∧
      world'.outputBuffer = change world.outputBuffer ∧ world'.req = world.req ∧
      world'.finalized = world.finalized :=
  ⟨{ world with
      staleAccesses := world.staleAccesses + world.destroyed.toNat
      outputBuffer := change world.outputBuffer },
    by obtain ⟨⟩ := world; cases held; rfl, rfl, rfl, rfl, rfl⟩

theorem modifyOutputHeaders_returns (held : world.req = true) (change : Headers → Headers) :
    ∃ world', modifyOutputHeaders change world = .ok () world' ∧
      world'.outputHeaders = change world.outputHeaders ∧
      world'.outputBuffer = world.outputBuffer ∧ world'.req = world.req ∧
      world'.finalized = world.finalized :=
  ⟨{ world with
      staleAccesses := world.staleAccesses + world.destroyed.toNat
      outputHeaders := change world.outputHeaders },
    by obtain ⟨⟩ := world; cases held; rfl, rfl, rfl, rfl, rfl⟩

theorem hasContentType_of_req (held : world.req = true) :
    hasContentType world = .ok world.outputHeaders.hasContentType world.touched :=
  returns_bind (getOutputHeaders_of_req held) rfl

theorem hasContentType_of_present (held : world.req = true)
    (present : world.outputHeaders.hasContentType = true) :
    hasContentType world = .ok true world.touched :=
  present ▸ hasContentType_of_req held

theorem resetOutput_of_finalized (finalized : world.finalized = true) :
    RaisesUnchanged (.exception "Cannot reset output after Request has been finalized")
      resetOutput world :=
  RaisesUnchanged.after (Request.getFinalized_eq world) ⟨rfl, rfl, rfl⟩
    (by rw [finalized]; exact ⟨_, rfl, rfl, rfl, rfl⟩)

theorem finalize_of_finalized (finalized : world.finalized = true) :
    RaisesUnchanged (.exception "Request already finalized") finalize world :=
  RaisesUnchanged.after (Request.getFinalized_eq world) ⟨rfl, rfl, rfl⟩
    (by rw [finalized]; exact ⟨_, rfl, rfl, rfl, rfl⟩)

end Request

/-! ## What reads no flag

A method that reads `finalized` nowhere runs on a finalized request as it runs on the same
request open, and leaves the flag set: setting the flag commutes with it. -/

/-- The outcome of a method with `change` applied to the world it leaves. -/
def mapWorld {α : Type} (change : World → World) :
    EStateM.Result Error World α → EStateM.Result Error World α
  | .ok a world => .ok a (change world)
  | .error e world => .error e (change world)

/-- Applying `change` before the method is applying it to the outcome. -/
def Commutes (change : World → World) {α : Type} (method : RequestM α) : Prop :=
  ∀ world, method (change world) = mapWorld change (method world)

/-- `finalized = true`, on its own. -/
def World.setFinalized (world : World) : World :=
  { world with finalized := true }

namespace Commutes

variable {change : World → World} {α β : Type} {first : RequestM α} {rest : α → RequestM β}

theorem bind (commutesFirst : Commutes change first)
    (commutesRest : ∀ a, Commutes change (rest a)) : Commutes change (first >>= rest) := by
  intro world
  show EStateM.bind first rest (change world) = mapWorld change (EStateM.bind first rest world)
  unfold EStateM.bind
  rw [commutesFirst world]
  cases first world with
  | ok a world' => exact commutesRest a world'
  | error e world' => rfl

/-- A read of the world commutes when what follows reads nothing `change` writes. -/
theorem get_bind {rest : World → RequestM β} (reads : ∀ world, rest (change world) = rest world)
    (commutesRest : ∀ world, Commutes change (rest world)) :
    Commutes change (MonadState.get >>= rest) :=
  fun world => (congrFun (reads world) (change world)).trans (commutesRest world world)

theorem modify {f : World → World} (commute : ∀ world, f (change world) = change (f world)) :
    Commutes change (modify f : RequestM PUnit) :=
  fun world => congrArg (EStateM.Result.ok PUnit.unit) (commute world)

theorem pure (a : α) : Commutes change (Pure.pure a : RequestM α) :=
  fun _ => rfl

theorem throw (e : Error) : Commutes change (MonadExcept.throw e : RequestM α) :=
  fun _ => rfl

theorem ite {condition : Prop} [Decidable condition] {positive negative : RequestM α}
    (commutesPositive : Commutes change positive) (commutesNegative : Commutes change negative) :
    Commutes change (if condition then positive else negative) := by
  split <;> assumption

theorem discard (commutes : Commutes change first) : Commutes change (discard first) := by
  intro world
  show EStateM.map _ first (change world) = mapWorld change (EStateM.map _ first world)
  unfold EStateM.map
  rw [commutes world]
  cases first world <;> rfl

/-! ### Setting the flag -/

theorem touch : Commutes World.setFinalized Request.touch :=
  modify fun _ => rfl

theorem access : Commutes World.setFinalized Request.access :=
  bind touch fun _ => get_bind (fun _ => rfl) fun _ => ite (pure _) (throw _)

/-- A field of the exchange read through `req.access()`. -/
theorem readExchange (field : World → α)
    (reads : ∀ world, field (World.setFinalized world) = field world) :
    Commutes World.setFinalized (do Request.access; return field (← MonadState.get)) :=
  bind access fun _ => get_bind (fun world => by simp only [reads]) fun _ => pure _

theorem modifyOutputHeaders (change : Headers → Headers) :
    Commutes World.setFinalized (Request.modifyOutputHeaders change) :=
  bind access fun _ => modify fun _ => rfl

theorem modifyOutputBuffer (change : Bytes → Bytes) :
    Commutes World.setFinalized (Request.modifyOutputBuffer change) :=
  bind access fun _ => modify fun _ => rfl

theorem freeExchange {onFree : RequestM Unit} (commutes : Commutes World.setFinalized onFree) :
    Commutes World.setFinalized (Request.freeExchange onFree) :=
  bind (modify fun _ => rfl) fun _ => get_bind (fun _ => rfl) fun _ =>
    ite (bind (modify fun _ => rfl) fun _ => commutes) (pure _)

theorem cancelExchange {onFree : RequestM Unit} (commutes : Commutes World.setFinalized onFree) :
    Commutes World.setFinalized (Request.cancelExchange onFree) :=
  bind access fun _ => bind (modify fun _ => rfl) fun _ => get_bind (fun _ => rfl) fun _ =>
    ite (freeExchange commutes) (pure _)

theorem destroy : Commutes World.setFinalized Request.destroy :=
  bind touch fun _ => get_bind (fun _ => rfl) fun _ =>
    ite
      (bind access fun _ => bind (modify fun _ => rfl) fun _ => bind touch fun _ =>
        get_bind (fun _ => rfl) fun _ =>
          ite (bind (cancelExchange (pure _)) fun _ => modify fun _ => rfl)
            (bind (pure _) fun _ => modify fun _ => rfl))
      (bind (pure _) fun _ => modify fun _ => rfl)

theorem freed : Commutes World.setFinalized Request.freed :=
  bind touch fun _ => bind (modify fun _ => rfl) fun _ => bind touch fun _ =>
    get_bind (fun _ => rfl) fun _ => bind (modify fun _ => rfl) fun _ => ite destroy (pure _)

theorem transportSend (primitive : Primitive) :
    Commutes World.setFinalized (Request.transportSend primitive) :=
  bind access fun _ => bind (modify fun _ => rfl) fun _ => get_bind (fun _ => rfl) fun _ =>
    ite (freeExchange freed) (pure _)

theorem outSetContentEncoding (compression : Compression) :
    Commutes World.setFinalized (Request.outSetContentEncoding compression) := by
  unfold Request.outSetContentEncoding
  split
  exacts [modifyOutputHeaders _, modifyOutputHeaders _, modifyOutputHeaders _, pure _]

theorem getOutputStream (parseDouble : List Char → Except Error ℚ) (compression : Compression) :
    Commutes World.setFinalized (Request.getOutputStream parseDouble compression) :=
  bind resolving fun _ => bind (outSetContentEncoding _) fun _ => bind access fun _ => pure _
where
  resolving : Commutes World.setFinalized (Request.resolveCompression parseDouble compression) :=
    ite (bind (readExchange World.inputHeaders fun _ => rfl) fun _ => by
        split
        exacts [pure _, throw _])
      (pure _)

end Commutes

/-- The calls that reach neither `finalize` nor `resetOutput`. -/
def Call.Unchecked : Call → Bool
  | .send _ | .sendFile _ | .outAdd .. | .outSet .. | .outRemove _ | .setContentType _
  | .setCookie _ | .setCache .. | .setPersistent _ | .getOutputStream _ | .getJSONChunkWriter
  | .startChunked _ | .sendChunk _ => true
  | _ => false

section Unchecked

variable (parseDouble : List Char → Except Error ℚ) (encode : Compression → Bytes → Bytes)

/-- A call that reaches neither `finalize` nor `resetOutput` reads no flag. -/
theorem Call.commutes_setFinalized (method : Call) (unchecked : method.Unchecked = true) :
    Commutes World.setFinalized (method.run parseDouble encode) := by
  cases method <;> simp only [Call.Unchecked, Bool.false_eq_true] at unchecked
  case send data | sendFile data => exact Commutes.modifyOutputBuffer (· ++ data)
  case outAdd name value => exact Commutes.modifyOutputHeaders (·.add name value)
  case outSet name value => exact Commutes.modifyOutputHeaders (·.set name value)
  case outRemove name => exact Commutes.modifyOutputHeaders (·.remove name)
  case setContentType contentType =>
    exact Commutes.modifyOutputHeaders (·.setContentType contentType)
  case setCookie cookie => exact Commutes.modifyOutputHeaders (·.add "Set-Cookie" cookie)
  case setCache age now later =>
    exact Commutes.bind (Commutes.modifyOutputHeaders (·.set "Date" now)) fun _ =>
      Commutes.ite
        (Commutes.bind (Commutes.modifyOutputHeaders _) fun _ => Commutes.modifyOutputHeaders _)
        (Commutes.bind (Commutes.modifyOutputHeaders _) fun _ => Commutes.modifyOutputHeaders _)
  case setPersistent persistent =>
    exact Commutes.bind (Commutes.readExchange World.version fun _ => rfl) fun _ =>
      Commutes.ite (Commutes.ite (Commutes.modifyOutputHeaders _) (Commutes.modifyOutputHeaders _))
        (Commutes.ite (Commutes.modifyOutputHeaders _) (Commutes.modifyOutputHeaders _))
  case getOutputStream compression =>
    exact Commutes.discard (Commutes.getOutputStream parseDouble compression)
  case getJSONChunkWriter =>
    exact Commutes.discard (Commutes.bind (Commutes.outSetContentEncoding .none) fun _ =>
      Commutes.pure _)
  case startChunked code => exact Commutes.transportSend (.sendReplyStart code)
  case sendChunk chunk => exact Commutes.transportSend (.sendReplyChunk chunk)

end Unchecked

/-- On a finalized request, each method that reaches `resetOutput` or `finalize` before it
writes raises there and leaves the output headers, the output buffer and the trace as they
were; `reply(code, string)` and `redirect` write first, and then raise; and every other
writing method runs as on the same request open, leaving the flag set. -/
theorem finalized_request_refuses (world : World) (finalized : world.finalized = true) :
    RaisesUnchanged (.exception "Cannot reset output after Request has been finalized")
      Request.resetOutput world ∧
    (∀ compression, RaisesUnchanged
      (.exception "Cannot reset output after Request has been finalized")
      (Request.getJSONWriter compression) world) ∧
    (∀ callback, RaisesUnchanged
      (.exception "Cannot reset output after Request has been finalized")
      (Request.getJSONPWriter callback) world) ∧
    (∀ code message, RaisesUnchanged
      (.exception "Cannot reset output after Request has been finalized")
      (Request.sendErrorWithMessage code message) world) ∧
    (∀ encode code rendered, RaisesUnchanged
      (.exception "Cannot reset output after Request has been finalized")
      (Request.sendJSONError encode code rendered) world) ∧
    (∀ code, RaisesUnchanged (.exception "Request already finalized") (Request.reply code) world) ∧
    (∀ code body, RaisesUnchanged (.exception "Request already finalized")
      (Request.replyWithBuffer code body) world) ∧
    (∀ code, RaisesUnchanged (.exception "Request already finalized")
      (Request.sendError code) world) ∧
    RaisesUnchanged (.exception "Request already finalized") Request.endChunked world ∧
    (world.req = true → ∀ code text, ∃ world',
      Request.replyWithString code text world =
        .error (.exception "Request already finalized") world' ∧
      world'.outputBuffer = world.outputBuffer ++ text) ∧
    (world.req = true → ∀ location code, ∃ world',
      Request.redirect location code world =
        .error (.exception "Request already finalized") world' ∧
      world'.outputHeaders =
        (world.outputHeaders.set "Location" location).set "Content-Length" "0") ∧
    (∀ parseDouble encode (method : Call), method.Unchecked = true →
      method.run parseDouble encode world =
        mapWorld World.setFinalized
          (method.run parseDouble encode { world with finalized := false })) := by
  have resetting := Request.resetOutput_of_finalized finalized
  have refusing := Request.finalize_of_finalized finalized
  have writing : ∀ compression, RaisesUnchanged
      (.exception "Cannot reset output after Request has been finalized")
      (Request.getJSONWriter compression) world :=
    fun _ => RaisesUnchanged.after rfl ⟨rfl, rfl, rfl⟩
      (RaisesUnchanged.bind (Request.resetOutput_of_finalized finalized))
  refine ⟨resetting, writing, fun _ => resetting.bind, fun _ _ => resetting.bind,
    fun _ _ _ => (writing _).bind, fun _ => refusing.bind, fun _ _ => refusing.bind,
    fun _ => refusing.bind, refusing.bind, fun held code text => ?_, fun held location code => ?_,
    fun parseDouble encode method unchecked => ?_⟩
  · obtain ⟨sent, sending, -, appended, -, kept⟩ :=
      Request.modifyOutputBuffer_returns held (· ++ text)
    obtain ⟨stopped, raising, -, buffer, -⟩ := Request.finalize_of_finalized (kept.trans finalized)
    exact ⟨stopped, raises_after sending (raises_of_first raising), buffer.trans appended⟩
  · obtain ⟨located, locating, headers, -, held', kept⟩ :=
      Request.modifyOutputHeaders_returns held (·.set "Location" location)
    obtain ⟨sized, sizing, headers', -, -, kept'⟩ :=
      Request.modifyOutputHeaders_returns (held'.trans held) (·.set "Content-Length" "0")
    obtain ⟨stopped, raising, headers'', -, -⟩ :=
      Request.finalize_of_finalized (kept'.trans (kept.trans finalized))
    refine ⟨stopped, raises_after locating (raises_after sizing (raises_of_first raising)), ?_⟩
    rw [headers'', headers', headers]
  · have reopened : World.setFinalized { world with finalized := false } = world := by
      obtain ⟨⟩ := world
      cases finalized
      rfl
    exact (congrArg (method.run parseDouble encode) reopened).symm.trans
      (method.commutes_setFinalized parseDouble encode unchecked _)

theorem finalized_delivered_refuses_reset_and_redirect :
    RaisesUnchanged (.exception "Cannot reset output after Request has been finalized")
      Request.resetOutput { Request.delivered ⟨[]⟩ (1, 1) false with finalized := true } ∧
    ∃ world', Request.redirect "/next" 302
        { Request.delivered ⟨[]⟩ (1, 1) false with finalized := true } =
        .error (.exception "Request already finalized") world' ∧
      world'.outputHeaders = (Headers.set ⟨[]⟩ "Location" "/next").set "Content-Length" "0" :=
  ⟨(finalized_request_refuses _ rfl).1,
    (finalized_request_refuses _ rfl).2.2.2.2.2.2.2.2.2.2.1 rfl _ _⟩

/-- A redirect after a reply sets `Location` on the finalized response before `finalize`
raises. -/
theorem redirect_after_reply_sets_location :
    ¬ RaisesUnchanged (.exception "Request already finalized") (Request.redirect "/next" 302)
      (finalState (Request.reply 200 (Request.delivered ⟨[]⟩ (1, 1) false))) := by
  rintro ⟨world', raising, headers, -⟩
  cases raising
  exact absurd headers (by decide)

end CbangEvent
