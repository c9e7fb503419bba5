import CbangEvent.Run

/-!
# A method that raises has sent nothing

Every method of the request hands its transport primitive over last: what can raise (the
`finalized` gate, `req.access()`, a writer's released stream) comes before it, and what follows
it cannot raise.  `SendsLast` says this of one method; a sequence sends last when its first
statement sends nothing and the rest sends last, or when the first sends last and the rest
cannot raise (`Returns`).
-/

namespace CbangEvent

/-! ## Outcomes of a method -/

section Outcomes

variable {σ α β : Type} (trace : σ → List Primitive)

/-- The two states carry the same trace. -/
def SameTrace (state state' : σ) : Prop :=
  trace state' = trace state

instance : IsRefl σ (SameTrace trace) :=
  ⟨fun _ => rfl⟩

instance : IsTrans σ (SameTrace trace) :=
  ⟨fun _ _ _ first second => second.trans first⟩

/-- Raising from `state`, the method leaves the trace as it was. -/
def SendsLastAt (method : EStateM Error σ α) (state : σ) : Prop :=
  ∀ e state', method state = .error e state' → trace state' = trace state

/-- From every state, a raise of the method leaves the trace as it was. -/
def SendsLast (method : EStateM Error σ α) : Prop :=
  ∀ state, SendsLastAt trace method state

/-- The method never raises. -/
def Returns (method : EStateM Error σ α) : Prop :=
  ∀ state, ∃ a state', method state = .ok a state'

variable {trace} {first : EStateM Error σ α} {rest : α → EStateM Error σ β}

/-- A sequence raising from `state` raised in its first statement, or in the rest after a
first statement that sent nothing or after which the rest cannot raise. -/
theorem SendsLastAt.bind {state : σ} (firstAt : SendsLastAt trace first state)
    (restAt : ∀ a state', first state = .ok a state' →
      SendsLastAt trace (rest a) state' ∧
        (trace state' = trace state ∨ ∀ e state'', rest a state' ≠ .error e state'')) :
    SendsLastAt trace (first >>= rest) state := by
  intro e state'' raised
  change EStateM.bind first rest state = _ at raised
  unfold EStateM.bind at raised
  cases outcome : first state with
  | ok a state' =>
      rw [outcome] at raised
      obtain ⟨sends, same | returns⟩ := restAt a state' outcome
      · exact (sends e state'' raised).trans same
      · exact absurd raised (returns e state'')
  | error e' state' =>
      rw [outcome] at raised
      cases raised
      exact firstAt _ _ outcome

theorem Returns.not_raises (returns : Returns first) (state : σ) (e : Error) (state' : σ) :
    first state ≠ .error e state' := by
  obtain ⟨_, _, returned⟩ := returns state
  rw [returned]
  exact nofun

theorem SendsLast.of_quiet (quiet : Guarantee (SameTrace trace) first) : SendsLast trace first := by
  intro state e state' raised
  have same := quiet state
  rw [raised] at same
  exact same

theorem SendsLast.of_returns (returns : Returns first) : SendsLast trace first :=
  fun state e state' raised => absurd raised (returns.not_raises state e state')

theorem SendsLast.bind_quiet (quiet : Guarantee (SameTrace trace) first)
    (sends : ∀ a, SendsLast trace (rest a)) : SendsLast trace (first >>= rest) :=
  fun state => SendsLastAt.bind (SendsLast.of_quiet quiet state) fun a _ returned =>
    ⟨sends a _, .inl (quiet.of_returns returned)⟩

theorem SendsLast.bind_returns (sends : SendsLast trace first) (returns : ∀ a, Returns (rest a)) :
    SendsLast trace (first >>= rest) :=
  fun state => SendsLastAt.bind (sends state) fun a state' _ =>
    ⟨SendsLast.of_returns (returns a) state', .inr ((returns a).not_raises state')⟩

theorem SendsLast.ite {condition : Prop} [Decidable condition]
    {positive negative : EStateM Error σ α} (sendsPositive : SendsLast trace positive)
    (sendsNegative : SendsLast trace negative) :
    SendsLast trace (if condition then positive else negative) := by
  split <;> assumption

theorem SendsLast.discard (sends : SendsLast trace first) : SendsLast trace (discard first) := by
  intro state e state' raised
  change EStateM.map _ first state = _ at raised
  unfold EStateM.map at raised
  cases outcome : first state <;> rw [outcome] at raised <;> cases raised
  exact sends _ _ _ outcome

theorem Returns.bind (returnsFirst : Returns first) (returnsRest : ∀ a, Returns (rest a)) :
    Returns (first >>= rest) := fun state =>
  let ⟨a, _, returned⟩ := returnsFirst state
  let ⟨b, state'', restReturned⟩ := returnsRest a _
  ⟨b, state'', returns_bind returned restReturned⟩

theorem Returns.modify (change : σ → σ) : Returns (modify change : EStateM Error σ PUnit) :=
  fun _ => ⟨_, _, rfl⟩

theorem Returns.get : Returns (MonadState.get : EStateM Error σ σ) :=
  fun _ => ⟨_, _, rfl⟩

theorem Returns.pure (a : α) : Returns (Pure.pure a : EStateM Error σ α) :=
  fun _ => ⟨_, _, rfl⟩

theorem Returns.ite {condition : Prop} [Decidable condition] {positive negative : EStateM Error σ α}
    (returnsPositive : Returns positive) (returnsNegative : Returns negative) :
    Returns (if condition then positive else negative) := by
  split <;> assumption

end Outcomes

/-! ## The request's own methods -/

namespace Request

theorem touch_quiet : Guarantee (SameTrace World.trace) touch :=
  Guarantee.modify fun _ => rfl

theorem setFinalized_quiet : Guarantee (SameTrace World.trace) setFinalized :=
  Guarantee.bind touch_quiet fun _ => Guarantee.modify fun _ => rfl

theorem modifyOutputHeaders_quiet (change : Headers → Headers) :
    Guarantee (SameTrace World.trace) (modifyOutputHeaders change) :=
  Guarantee.bind (Guarantee.access touch_quiet) fun _ => Guarantee.modify fun _ => rfl

theorem modifyOutputBuffer_quiet (change : Bytes → Bytes) :
    Guarantee (SameTrace World.trace) (modifyOutputBuffer change) :=
  Guarantee.bind (Guarantee.access touch_quiet) fun _ => Guarantee.modify fun _ => rfl

theorem finalize_quiet : Guarantee (SameTrace World.trace) finalize :=
  Guarantee.finalize touch_quiet modifyOutputHeaders_quiet setFinalized_quiet

theorem setFinalized_returns : Returns setFinalized :=
  Returns.bind (Returns.modify _) fun _ => Returns.modify _

/-- `~Request` raises nothing: each `req.access()` in it comes after `req.isSet()`. -/
theorem destroy_returns : Returns destroy := by
  intro world
  cases held : world.req <;> cases deallocated : world.deallocate <;>
    cases lost : world.connectionLost <;> cases incoming : world.incomingConnection <;>
    obtain ⟨⟩ := world <;> cases held <;> cases deallocated <;> cases lost <;> cases incoming <;>
    exact ⟨_, _, rfl⟩

theorem freed_returns : Returns freed :=
  Returns.bind (Returns.modify _) fun _ => Returns.bind (Returns.modify _) fun _ =>
    Returns.bind (Returns.modify _) fun _ => Returns.bind Returns.get fun _ =>
      Returns.bind (Returns.modify _) fun _ => Returns.ite destroy_returns (Returns.pure _)

theorem freeExchange_freed_returns : Returns (freeExchange freed) :=
  Returns.bind (Returns.modify _) fun _ => Returns.bind Returns.get fun _ =>
    Returns.ite (Returns.bind (Returns.modify _) fun _ => freed_returns) (Returns.pure _)

/-- A response primitive raises only in `req.access()`, before it is sent. -/
theorem transportSend_sendsLast (primitive : Primitive) :
    SendsLast World.trace (transportSend primitive) :=
  SendsLast.bind_quiet (Guarantee.access touch_quiet) fun _ =>
    SendsLast.bind_returns (SendsLast.of_returns (Returns.modify _)) fun _ =>
      Returns.bind Returns.get fun _ => Returns.ite freeExchange_freed_returns (Returns.pure _)

/-- `cancel()` raises only in `req.access()`, before the cancel is sent. -/
theorem cancel_sendsLast : SendsLast World.trace cancel :=
  SendsLast.bind_returns
    (SendsLast.bind_quiet (Guarantee.access touch_quiet) fun _ =>
      SendsLast.bind_returns (SendsLast.of_returns (Returns.modify _)) fun _ =>
        Returns.bind Returns.get fun _ => Returns.ite freeExchange_freed_returns (Returns.pure _))
    fun _ => setFinalized_returns

end Request

/-! ## Writers -/

namespace JSONWriter

variable (encode : Compression → Bytes → Bytes) {α : Type}

theorem quiet_of_onWorld {method : WriterM α}
    (quiet : Guarantee (OnWorld (SameTrace World.trace)) method) :
    Guarantee (SameTrace fun state : World × JSONWriter => state.1.trace) method :=
  quiet

theorem write_quiet (text : Bytes) :
    Guarantee (SameTrace fun state : World × JSONWriter => state.1.trace) (write text) :=
  quiet_of_onWorld (guarantee_write text)

theorem sendToOutput_quiet : Guarantee (OnWorld (SameTrace World.trace)) sendToOutput :=
  guarantee_sendToOutput fun _ => Request.modifyOutputBuffer_quiet _

theorem destroy_quiet : Guarantee (OnWorld (SameTrace World.trace)) (destroy encode) :=
  guarantee_destroy encode (guarantee_closeWith encode sendToOutput_quiet)

/-- `~JSONWriter` catches what `close()` raises. -/
theorem destroy_returns : Returns (destroy encode) := by
  intro state
  unfold destroy
  cases closeWith encode sendToOutput state <;> exact ⟨_, _, rfl⟩

theorem lift_sendsLast {method : RequestM α} (sends : SendsLast World.trace method) :
    SendsLast (fun state : World × JSONWriter => state.1.trace) (lift method) := by
  rintro ⟨world, writer⟩ e state' raised
  cases outcome : method world <;> simp only [lift, outcome, reduceCtorEq] at raised
  cases raised
  exact sends _ _ _ outcome

theorem within_sendsLast {writer : JSONWriter} {method : WriterM Unit}
    (sends : SendsLast (fun state : World × JSONWriter => state.1.trace) method) :
    SendsLast World.trace (within writer method) := by
  intro world e world' raised
  rcases outcome : method (world, writer) with ⟨_, ⟨_, _⟩⟩ | ⟨_, ⟨_, _⟩⟩ <;>
    simp only [within, outcome, reduceCtorEq] at raised
  cases raised
  exact sends _ _ _ outcome

/-- A local writer raises what its body raises, after a destructor that sends nothing. -/
theorem withLocal_sendsLast {writer : JSONWriter} {body : WriterM Unit}
    (sends : ∀ world, SendsLastAt (fun state : World × JSONWriter => state.1.trace) body
      (world, writer)) :
    SendsLast World.trace (withLocal encode writer body) := by
  intro world e world' raised
  cases outcome : body (world, writer) with
  | ok _ state => simp only [withLocal, outcome, reduceCtorEq] at raised
  | error _ state =>
      simp only [withLocal, outcome] at raised
      cases raised
      have closing := destroy_quiet encode state
      cases ending : destroy encode state <;> rw [ending] at closing <;> simp only [ending] <;>
        exact closing.trans (sends world _ _ outcome)

theorem sendAsChunk_sendsLast :
    SendsLast (fun state : World × JSONWriter => state.1.trace) sendAsChunk :=
  SendsLast.bind_quiet Guarantee.get fun _ =>
    SendsLast.bind_returns (lift_sendsLast (Request.transportSend_sendsLast _)) fun _ =>
      Returns.modify _

theorem close_sendsLast :
    SendsLast (fun state : World × JSONWriter => state.1.trace) (close encode) := by
  refine SendsLast.bind_quiet Guarantee.get fun state => ?_
  split
  · exact SendsLast.of_quiet (quiet_of_onWorld (Guarantee.bind (Guarantee.pure _) fun _ =>
      Guarantee.bind (guarantee_write _) fun _ => guarantee_closeWith encode sendToOutput_quiet))
  · refine SendsLast.bind_quiet (Guarantee.pure _) fun _ =>
      SendsLast.bind_quiet (quiet_of_onWorld (guarantee_releaseStream encode)) fun _ => ?_
    cases state.2.kind
    case chunked => exact sendAsChunk_sendsLast
    all_goals exact SendsLast.of_quiet (quiet_of_onWorld sendToOutput_quiet)

end JSONWriter

/-! ## `sendJSONError` -/

namespace Request

variable (encode : Compression → Bytes → Bytes)

theorem getJSONWriter_quiet (compression : Compression) :
    Guarantee (SameTrace World.trace) (getJSONWriter compression) :=
  Guarantee.getJSONWriter touch_quiet modifyOutputHeaders_quiet modifyOutputBuffer_quiet compression

/-- The writer `getJSONWriter` returns is the plain one over a fresh stream. -/
theorem getJSONWriter_writer {compression : Compression} {world world' : World}
    {writer : JSONWriter} (returned : getJSONWriter compression world = .ok writer world') :
    writer = ⟨.plain, [], some (compressBufferStream compression)⟩ := by
  obtain ⟨_, _, -, returned⟩ := bind_returns returned
  obtain ⟨_, _, -, returned⟩ := bind_returns returned
  obtain ⟨_, _, -, returned⟩ := bind_returns returned
  obtain ⟨_, _, -, returned⟩ := bind_returns returned
  cases returned
  rfl

theorem replyWithBuffer_sendsLast (code : Int) (body : Bytes) :
    SendsLast World.trace (replyWithBuffer code body) :=
  SendsLast.bind_quiet finalize_quiet fun _ =>
    SendsLast.bind_quiet (modifyOutputBuffer_quiet _) fun _ => transportSend_sendsLast _

theorem sendError_sendsLast (code : Int) : SendsLast World.trace (sendError code) :=
  SendsLast.bind_quiet finalize_quiet fun _ => transportSend_sendsLast _

theorem endChunked_sendsLast : SendsLast World.trace endChunked :=
  SendsLast.bind_quiet finalize_quiet fun _ => transportSend_sendsLast _

/-- The body of `sendJSONError` on the plain writer: the write returns, `close()` sends nothing,
and the reply sends last. -/
theorem sendJSONError_sendsLast (code : Int) (rendered : Bytes) :
    SendsLast World.trace (sendJSONError encode code rendered) := fun world =>
  SendsLastAt.bind (SendsLast.of_quiet (getJSONWriter_quiet .none) world)
    fun writer opened returned => by
      cases getJSONWriter_writer returned
      refine ⟨JSONWriter.withLocal_sendsLast encode (fun world => ?_) opened,
        .inl ((getJSONWriter_quiet .none).of_returns returned)⟩
      refine SendsLastAt.bind (fun _ _ raised => nomatch raised) fun _ _ written => ?_
      cases written
      refine ⟨SendsLastAt.bind (JSONWriter.close_sendsLast encode _) fun _ _ closed =>
        ⟨JSONWriter.lift_sendsLast (replyWithBuffer_sendsLast _ []) _, .inl ?_⟩, .inl rfl⟩
      exact (JSONWriter.quiet_of_onWorld
        (JSONWriter.guarantee_closeWith encode JSONWriter.sendToOutput_quiet)).of_returns closed

end Request

/-! ## Every call -/

section Calls

variable (parseDouble : List Char → Except Error ℚ) (encode : Compression → Bytes → Bytes)

/-- Every call sends last: the quiet ones send nothing, and the others are composed as their
bodies are. -/
theorem Call.sendsLast : ∀ method : Call, SendsLast World.trace (method.run parseDouble encode)
  | .send data | .sendFile data => SendsLast.of_quiet (Request.modifyOutputBuffer_quiet (· ++ data))
  | .outAdd name value => SendsLast.of_quiet (Request.modifyOutputHeaders_quiet (·.add name value))
  | .outSet name value => SendsLast.of_quiet (Request.modifyOutputHeaders_quiet (·.set name value))
  | .outRemove name => SendsLast.of_quiet (Request.modifyOutputHeaders_quiet (·.remove name))
  | .setContentType contentType =>
      SendsLast.of_quiet (Request.modifyOutputHeaders_quiet (·.setContentType contentType))
  | .setCookie cookie =>
      SendsLast.of_quiet (Request.modifyOutputHeaders_quiet (·.add "Set-Cookie" cookie))
  | .setCache age now later =>
      SendsLast.of_quiet (Guarantee.setCache Request.modifyOutputHeaders_quiet age now later)
  | .setPersistent persistent => SendsLast.of_quiet
      (Guarantee.setPersistent Request.touch_quiet Request.modifyOutputHeaders_quiet persistent)
  | .resetOutput => SendsLast.of_quiet
      (Guarantee.resetOutput Request.touch_quiet Request.modifyOutputBuffer_quiet)
  | .getOutputStream compression => SendsLast.discard (SendsLast.of_quiet
      (Guarantee.getOutputStream parseDouble Request.touch_quiet Request.modifyOutputHeaders_quiet
        compression))
  | .getJSONWriter compression =>
      SendsLast.discard (SendsLast.of_quiet (Request.getJSONWriter_quiet compression))
  | .getJSONPWriter callback => SendsLast.discard (SendsLast.of_quiet
      (Guarantee.getJSONPWriter Request.touch_quiet Request.modifyOutputHeaders_quiet
        Request.modifyOutputBuffer_quiet callback))
  | .getJSONChunkWriter => SendsLast.discard (SendsLast.of_quiet
      (JSONWriter.guarantee_create Request.modifyOutputHeaders_quiet .chunked .none))
  | .writerWrite _ text => SendsLast.discard
      (JSONWriter.within_sendsLast (SendsLast.of_quiet (JSONWriter.write_quiet text)))
  | .writerClose _ =>
      SendsLast.discard (JSONWriter.within_sendsLast (JSONWriter.close_sendsLast encode))
  | .writerDestroy _ => SendsLast.discard
      (JSONWriter.within_sendsLast (SendsLast.of_returns (JSONWriter.destroy_returns encode)))
  | .reply code => Request.replyWithBuffer_sendsLast code []
  | .replyWithBuffer code body => Request.replyWithBuffer_sendsLast code body
  | .replyWithString code text =>
      SendsLast.bind_quiet (Request.modifyOutputBuffer_quiet (· ++ text)) fun _ =>
        Request.replyWithBuffer_sendsLast code []
  | .sendError code => Request.sendError_sendsLast code
  | .sendErrorWithMessage code message =>
      SendsLast.bind_quiet (Guarantee.resetOutput Request.touch_quiet Request.modifyOutputBuffer_quiet)
        fun _ => SendsLast.bind_quiet (Request.modifyOutputHeaders_quiet (·.setContentType "text/plain"))
          fun _ => SendsLast.bind_quiet (Request.modifyOutputBuffer_quiet (· ++ message)) fun _ =>
            Request.sendError_sendsLast code
  | .sendJSONError code rendered => Request.sendJSONError_sendsLast encode code rendered
  | .startChunked code => Request.transportSend_sendsLast (.sendReplyStart code)
  | .sendChunk chunk => Request.transportSend_sendsLast (.sendReplyChunk chunk)
  | .endChunked => Request.endChunked_sendsLast
  | .redirect location code =>
      SendsLast.bind_quiet (Request.modifyOutputHeaders_quiet (·.set "Location" location)) fun _ =>
        SendsLast.bind_quiet (Request.modifyOutputHeaders_quiet (·.set "Content-Length" "0"))
          fun _ => Request.replyWithBuffer_sendsLast code []
  | .cancel => Request.cancel_sendsLast

/-- No method of the request raises after it has handed something to the transport: from
every state, a call that raises leaves the trace of primitives as it found it. -/
theorem call_raises_before_sending (method : Call) (world : World) {error : Error}
    {world' : World} (raised : method.run parseDouble encode world = .error error world') :
    world'.trace = world.trace :=
  Call.sendsLast parseDouble encode method world error world' raised

theorem late_reply_with_text_raises_unsent :
    ∃ world', (Call.replyWithString 200 "late".toList).run Negotiation.specParseDouble
        (fun _ bytes => bytes)
        { Request.delivered ⟨[]⟩ (1, 1) false with finalized := true, trace := [.sendReply 200] } =
        .error (.exception "Request already finalized") world' ∧
      world'.outputBuffer = "late".toList ∧ world'.trace = [.sendReply 200] :=
  ⟨_, rfl, rfl, call_raises_before_sending Negotiation.specParseDouble (fun _ bytes => bytes)
    (.replyWithString 200 "late".toList)
    { Request.delivered ⟨[]⟩ (1, 1) false with finalized := true, trace := [.sendReply 200] }
    (by rfl)⟩

end Calls

end CbangEvent
