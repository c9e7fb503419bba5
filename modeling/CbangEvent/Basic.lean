import Mathlib.Data.List.Basic

/-!
# Text, errors and tokenizing

The request code handles header values and buffer contents as byte strings; the model
keeps one `Char` per byte.  Errors are the `cb::Exception`s raised by `THROW`, with their
message texts, and the two failures of the library helpers the request code calls
(`SmartPointer::access` on a released pointer, `Headers::get` of an absent name).

`String::tokenize` and `String::toLower` belong to the library, not to the request code;
the tokenizer is modelled here from the spec's description and proved to split a text at
delimiter runs.
-/

namespace CbangEvent

/-- Bytes of a buffer or of a header text, one `Char` per byte. -/
abbrev Bytes := List Char

/-- What a call of the request code can raise. -/
inductive Error
  /-- `THROW(message)`: a `cb::Exception` carrying the message text. -/
  | exception (message : String)
  /-- `SmartPointer::access` of an unset pointer, such as `req` after `freed()`. -/
  | nullPointer
  /-- `Headers::get` of a name with no entry. -/
  | notFound (name : String)
  /-- `*SmartPointer::get()` of a released pointer: undefined behaviour, which ends the call. -/
  | nullDereference
  deriving DecidableEq, Repr

/-- Outcomes of fallible calls compare by constructor and payload. -/
instance instDecidableEqExcept {ε α : Type} [DecidableEq ε] [DecidableEq α] :
    DecidableEq (Except ε α)
  | .error a, .error b => decidable_of_iff (a = b) ⟨congrArg _, Except.error.inj⟩
  | .ok a, .ok b => decidable_of_iff (a = b) ⟨congrArg _, Except.ok.inj⟩
  | .error _, .ok _ => isFalse nofun
  | .ok _, .error _ => isFalse nofun

/-- `String::toLower`, one character at a time. -/
def toLower (text : List Char) : List Char :=
  text.map Char.toLower

/-- Modelled from the spec: `String::tokenize` is not in the source.  The spec tokenizes a
header "on `,`/whitespace"; the text is split at every delimiter character and the empty
pieces are dropped. -/
def tokenize (delims : List Char) (text : List Char) : List (List Char) :=
  (text.splitOnP fun c => delims.contains c).filter fun token => !token.isEmpty

/-- `find_first_of(c)` followed by `substr(0, pos)` and `substr(pos + 1)`: the text before
the first `c` and the text after it, or `none` when `c` does not occur. -/
def splitAtFirst (c : Char) (text : List Char) : Option (List Char × List Char) :=
  match text.span (· ≠ c) with
  | (_, []) => none
  | (before, _ :: after) => some (before, after)

/-- `find_first_of` stops at the first `c`. -/
theorem splitAtFirst_append_cons {c : Char} {before : List Char} (absent : c ∉ before)
    (after : List Char) : splitAtFirst c (before ++ c :: after) = some (before, after) := by
  have kept : ∀ x ∈ before, decide (x ≠ c) = true := fun x member =>
    decide_eq_true fun same => absent (same ▸ member)
  rw [splitAtFirst, List.span_eq_take_drop, List.takeWhile_append_of_pos kept,
    List.dropWhile_append_of_pos kept]
  simp

section Tokenize

variable {delims : List Char}

/-- No character of the text is a delimiter. -/
def DelimiterFree (delims text : List Char) : Prop :=
  ∀ c ∈ text, c ∉ delims

instance (delims text : List Char) : Decidable (DelimiterFree delims text) :=
  inferInstanceAs (Decidable (∀ c ∈ text, c ∉ delims))

@[simp] theorem tokenize_nil : tokenize delims [] = [] := rfl

theorem tokenize_of_delimiterFree {text : List Char} (free : DelimiterFree delims text) :
    tokenize delims text = if text = [] then [] else [text] := by
  rw [tokenize, List.splitOnP_eq_single _ _ (by simpa [DelimiterFree] using free)]
  cases text <;> simp

/-- A delimiter ends the token before it; the text after it is tokenized on its own. -/
theorem tokenize_append_delimiter {token : List Char} (free : DelimiterFree delims token)
    {d : Char} (delimiter : d ∈ delims) (rest : List Char) :
    tokenize delims (token ++ d :: rest) =
      (if token = [] then [] else [token]) ++ tokenize delims rest := by
  rw [tokenize, List.splitOnP_first _ _ (by simpa [DelimiterFree] using free) d
    (by simpa using delimiter)]
  cases token <;> simp [tokenize]

/-- A run of delimiters is skipped. -/
theorem tokenize_delimiters_append {run : List Char} (delimiters : ∀ c ∈ run, c ∈ delims)
    (rest : List Char) : tokenize delims (run ++ rest) = tokenize delims rest := by
  induction run with
  | nil => rfl
  | cons c run ih =>
      have step := @tokenize_append_delimiter delims []
        (fun _ h => absurd h (List.not_mem_nil _)) c (delimiters c (by simp)) (run ++ rest)
      simpa [ih fun x hx => delimiters x (by simp [hx])] using step

/-- A token followed by a non-empty run of delimiters is one item; the rest is tokenized on
its own. -/
theorem tokenize_token_separator {token : List Char} (free : DelimiterFree delims token)
    (nonempty : token ≠ []) {separator : List Char} (separated : separator ≠ [])
    (delimiters : ∀ c ∈ separator, c ∈ delims) (rest : List Char) :
    tokenize delims (token ++ separator ++ rest) = token :: tokenize delims rest := by
  obtain ⟨d, run, rfl⟩ := List.exists_cons_of_ne_nil separated
  rw [List.append_assoc, List.cons_append,
    tokenize_append_delimiter free (delimiters d (List.mem_cons_self _ _)),
    tokenize_delimiters_append fun c member => delimiters c (List.mem_cons_of_mem _ member)]
  simp [nonempty]

theorem splitOnP_map {f : Char → Char} {p : Char → Bool} (text : List Char) :
    (text.map f).splitOnP p = (text.splitOnP (p ∘ f)).map (List.map f) := by
  induction text with
  | nil => rfl
  | cons c text ih =>
      rw [List.map_cons, List.splitOnP_cons, List.splitOnP_cons, ih, Function.comp_apply]
      cases p (f c)
      · cases text.splitOnP (p ∘ f) <;> rfl
      · rfl

/-- A character map that sends delimiters to delimiters and nothing else to one maps the
tokens. -/
theorem tokenize_map {f : Char → Char} (keeps : ∀ c, delims.contains (f c) = delims.contains c)
    (text : List Char) : tokenize delims (text.map f) = (tokenize delims text).map (List.map f) := by
  have same : ((fun c => delims.contains c) ∘ f) = fun c => delims.contains c := funext keeps
  rw [tokenize, tokenize, splitOnP_map, same, List.filter_map]
  congr 2
  funext token
  cases token <;> rfl

end Tokenize

end CbangEvent
