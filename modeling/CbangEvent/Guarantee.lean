import CbangEvent.Writer
import Mathlib.Order.RelClasses

/-!
# Guarantees of methods

A method guarantees a relation `R` when every outcome it can have, returned or raised, is
`R`-related to the state it started in.  For a preorder, guarantees compose along the
statements of a method: a sequence, a branch, a raise and a plain return keep them.  Each
property of runs is then proved once per primitive and carried to every method by this
composition.

Writer methods act on a request world and a writer object; a relation on worlds is read on
their first component.
-/

namespace CbangEvent

section Guarantee

variable {σ : Type} {R : σ → σ → Prop}

/-- Every outcome of `method`, returned or raised, is `R`-related to the starting state. -/
def Guarantee (R : σ → σ → Prop) {α : Type} (method : EStateM Error σ α) : Prop :=
  ∀ state, R state (finalState (method state))

/-- A sequence guarantees `T` when its first statement's relation followed by the rest's
is `T`, and the first statement's alone, for a raise, is `T` too. -/
theorem Guarantee.bind_trans {S T : σ → σ → Prop} {α β : Type} {first : EStateM Error σ α}
    {rest : α → EStateM Error σ β} (guaranteesFirst : Guarantee R first)
    (guaranteesRest : ∀ a, Guarantee S (rest a)) (compose : ∀ {a b c}, R a b → S b c → T a c)
    (weaken : ∀ {a b}, R a b → T a b) : Guarantee T (first >>= rest) := by
  intro state
  have related := guaranteesFirst state
  show T state (finalState (EStateM.bind first rest state))
  unfold EStateM.bind
  cases outcome : first state with
  | ok a state' =>
      rw [outcome] at related
      exact compose related (guaranteesRest a state')
  | error e state' =>
      rw [outcome] at related
      exact weaken related

theorem Guarantee.bind [IsTrans σ R] {α β : Type} {first : EStateM Error σ α}
    {rest : α → EStateM Error σ β} (guaranteesFirst : Guarantee R first)
    (guaranteesRest : ∀ a, Guarantee R (rest a)) : Guarantee R (first >>= rest) :=
  Guarantee.bind_trans guaranteesFirst guaranteesRest (IsTrans.trans _ _ _) id

theorem Guarantee.mono {S : σ → σ → Prop} {α : Type} {method : EStateM Error σ α}
    (weaken : ∀ {a b}, R a b → S a b) (guarantees : Guarantee R method) : Guarantee S method :=
  fun state => weaken (guarantees state)

theorem Guarantee.of_returns {α : Type} {method : EStateM Error σ α} {state state' : σ} {a : α}
    (guarantees : Guarantee R method) (returned : method state = .ok a state') :
    R state state' := by
  simpa [returned] using guarantees state

theorem returns_bind {α β : Type} {first : EStateM Error σ α} {rest : α → EStateM Error σ β}
    {state state' state'' : σ} {a : α} {b : β} (returned : first state = .ok a state')
    (restReturned : rest a state' = .ok b state'') : (first >>= rest) state = .ok b state'' := by
  show EStateM.bind first rest state = _
  simp [EStateM.bind, returned, restReturned]

/-- A sequence that returns ran its first statement to a return. -/
theorem bind_returns {α β : Type} {first : EStateM Error σ α} {rest : α → EStateM Error σ β}
    {state state'' : σ} {b : β} (returned : (first >>= rest) state = .ok b state'') :
    ∃ a state', first state = .ok a state' ∧ rest a state' = .ok b state'' := by
  change EStateM.bind first rest state = _ at returned
  unfold EStateM.bind at returned
  cases outcome : first state with
  | ok a state' => exact ⟨a, state', rfl, by simpa [outcome] using returned⟩
  | error e state' => simp [outcome] at returned

theorem Guarantee.pure [IsRefl σ R] {α : Type} (a : α) :
    Guarantee R (Pure.pure a : EStateM Error σ α) :=
  fun state => IsRefl.refl state

theorem Guarantee.throw [IsRefl σ R] {α : Type} (e : Error) :
    Guarantee R (MonadExcept.throw e : EStateM Error σ α) :=
  fun state => IsRefl.refl state

theorem Guarantee.get [IsRefl σ R] : Guarantee R (MonadState.get : EStateM Error σ σ) :=
  fun state => IsRefl.refl state

theorem Guarantee.modify {change : σ → σ} (related : ∀ state, R state (change state)) :
    Guarantee R (modify change : EStateM Error σ PUnit) :=
  related

theorem Guarantee.discard {α : Type} {method : EStateM Error σ α}
    (guarantees : Guarantee R method) : Guarantee R (discard method) := by
  intro state
  have related := guarantees state
  show R state (finalState (EStateM.map _ method state))
  unfold EStateM.map
  cases outcome : method state <;> simpa [outcome] using related

theorem Guarantee.ite {α : Type} {condition : Prop} [Decidable condition]
    {positive negative : EStateM Error σ α} (guaranteesPositive : Guarantee R positive)
    (guaranteesNegative : Guarantee R negative) :
    Guarantee R (if condition then positive else negative) := by
  split <;> assumption

end Guarantee

/-- A relation on worlds, read on the world of a writer method's state. -/
def OnWorld (R : World → World → Prop) (state state' : World × JSONWriter) : Prop :=
  R state.1 state'.1

instance {R : World → World → Prop} [IsRefl World R] : IsRefl (World × JSONWriter) (OnWorld R) :=
  ⟨fun state => IsRefl.refl state.1⟩

instance {R : World → World → Prop} [IsTrans World R] :
    IsTrans (World × JSONWriter) (OnWorld R) :=
  ⟨fun _ _ _ first second => @IsTrans.trans World R _ _ _ _ first second⟩

namespace JSONWriter

variable {R : World → World → Prop} (encode : Compression → Bytes → Bytes)

theorem guarantee_lift {α : Type} {method : RequestM α} (guarantees : Guarantee R method) :
    Guarantee (OnWorld R) (lift method) := by
  rintro ⟨world, writer⟩
  have related := guarantees world
  unfold lift
  cases outcome : method world <;> simpa [outcome, OnWorld] using related

theorem guarantee_write [IsRefl World R] (text : Bytes) :
    Guarantee (OnWorld R) (write text) := by
  rintro ⟨world, writer⟩
  cases stream : writer.stream <;> simp only [write, stream, OnWorld, finalState_ok,
    finalState_error] <;> exact IsRefl.refl world

theorem guarantee_releaseStream [IsRefl World R] :
    Guarantee (OnWorld R) (releaseStream encode) := by
  rintro ⟨world, writer⟩
  cases stream : writer.stream <;> simp only [releaseStream, modify, modifyGet,
    MonadStateOf.modifyGet, EStateM.modifyGet, stream, OnWorld, finalState_ok] <;>
    exact IsRefl.refl world

theorem guarantee_emptyBuffer [IsRefl World R] :
    Guarantee (OnWorld R) (modify fun (world, writer) => (world, { writer with buffer := [] }) :
      WriterM Unit) := by
  rintro ⟨world, writer⟩
  exact IsRefl.refl world

section Sends

variable [IsRefl World R] [IsTrans World R]
  (sends : ∀ data, Guarantee R (Request.send data))
  (chunks : ∀ chunk, Guarantee R (Request.sendChunk chunk))

include sends in
theorem guarantee_sendToOutput : Guarantee (OnWorld R) sendToOutput :=
  Guarantee.bind Guarantee.get fun _ =>
    Guarantee.bind (guarantee_lift (sends _)) fun _ => guarantee_emptyBuffer

include chunks in
theorem guarantee_sendAsChunk : Guarantee (OnWorld R) sendAsChunk :=
  Guarantee.bind Guarantee.get fun _ =>
    Guarantee.bind (guarantee_lift (chunks _)) fun _ => guarantee_emptyBuffer

include sends chunks in
theorem guarantee_send (kind : WriterKind) : Guarantee (OnWorld R) (send kind) := by
  cases kind
  case chunked => exact guarantee_sendAsChunk chunks
  all_goals exact guarantee_sendToOutput sends

theorem guarantee_closeWith {send : WriterM Unit} (guarantees : Guarantee (OnWorld R) send) :
    Guarantee (OnWorld R) (closeWith encode send) :=
  Guarantee.bind (Guarantee.pure _) fun _ =>
    Guarantee.bind (guarantee_releaseStream encode) fun _ => guarantees

include sends chunks in
theorem guarantee_close : Guarantee (OnWorld R) (close encode) := by
  refine Guarantee.bind Guarantee.get fun state => ?_
  split
  · exact Guarantee.bind (Guarantee.pure _) fun _ => Guarantee.bind (guarantee_write _) fun _ =>
      guarantee_closeWith encode (guarantee_send sends chunks _)
  · exact guarantee_closeWith encode (guarantee_send sends chunks _)

end Sends

theorem guarantee_destroy (guarantees : Guarantee (OnWorld R) (closeWith encode sendToOutput)) :
    Guarantee (OnWorld R) (destroy encode) := by
  intro state
  have related := guarantees state
  unfold destroy
  cases outcome : closeWith encode sendToOutput state <;> rw [outcome] at related <;>
    exact related

theorem guarantee_within [IsTrans World R] {writer : JSONWriter} {method : WriterM Unit}
    (guarantees : Guarantee (OnWorld R) method) : Guarantee R (within writer method) := by
  intro world
  have related := guarantees (world, writer)
  unfold within
  cases outcome : method (world, writer) <;> simpa [outcome, OnWorld] using related

theorem guarantee_withLocal [IsTrans World R] {writer : JSONWriter} {body : WriterM Unit}
    (guaranteesBody : Guarantee (OnWorld R) body)
    (guaranteesDestroy : Guarantee (OnWorld R) (destroy encode)) :
    Guarantee R (withLocal encode writer body) := by
  intro world
  have related := guaranteesBody (world, writer)
  unfold withLocal
  cases outcome : body (world, writer) with
  | ok _ state =>
      rw [outcome] at related
      have closing := guaranteesDestroy state
      cases ending : destroy encode state <;> rw [ending] at closing <;>
        simpa only [ending] using @IsTrans.trans World R _ _ _ _ related closing
  | error _ state =>
      rw [outcome] at related
      have closing := guaranteesDestroy state
      cases ending : destroy encode state <;> rw [ending] at closing <;>
        simpa only [ending] using @IsTrans.trans World R _ _ _ _ related closing

end JSONWriter

end CbangEvent
