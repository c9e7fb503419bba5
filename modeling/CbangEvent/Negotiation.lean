import CbangEvent.Headers
import Mathlib.Algebra.Order.Ring.Rat

/-!
# Accept-Encoding negotiation

`Request::getRequestedCompression` scans the tokens of the Accept-Encoding value once, keeping
the running maximum quality, the last wildcard quality, the names seen and the codec selected;
`requestedCompressionRule` states declaratively what the scan computes (`foldlM_scanItem`).
Quality values are exact rationals read by an arbitrary `parseDouble`, or by the spec's reading
where a statement needs its behaviour on text that is not a number.
-/

namespace CbangEvent

/-- `Request::compression_t`. -/
inductive Compression
  | none
  | zlib
  | gzip
  | bzip2
  | auto
  deriving DecidableEq, Repr

/-- `getContentEncoding`: the Content-Encoding text of a compressing codec, and `0` (here
`none`) for the others. -/
def getContentEncoding : Compression → Option String
  | .zlib => some "zlib"
  | .gzip => some "gzip"
  | .bzip2 => some "bzip2"
  | _ => none

namespace Negotiation

/-- The codec a recognised coding name selects. -/
def codecOf (name : List Char) : Option Compression :=
  if name = "identity".toList then some .none
  else if name = "gzip".toList then some .gzip
  else if name = "zlib".toList then some .zlib
  else if name = "bzip2".toList then some .bzip2
  else none

/-- `2 < arg.length() && arg[0] == 'q' && arg[1] == '='`, giving the text after `q=`. -/
def qualityText : List Char → Option (List Char)
  | 'q' :: '=' :: text@(_ :: _) => some text
  | _ => none

/-- The name of an item and the text of its quality value, as the loop body cuts them: the
item is lower-cased and split at its first `;`. -/
def itemParts (item : List Char) : List Char × Option (List Char) :=
  match splitAtFirst ';' (toLower item) with
  | none => (toLower item, none)
  | some (name, arg) => (name, qualityText arg)

/-- The quality the loop body reads for an item: `1`, or `parseDouble` of its text. -/
def itemQuality (parseDouble : List Char → Except Error ℚ) :
    Option (List Char) → Except Error ℚ
  | none => .ok 1
  | some text => parseDouble text

/-! ## Reading quality values -/

/-- The value of a run of decimal digits, `none` when a character is not a digit. -/
def digitsValue (digits : List Char) : Option Nat :=
  digits.foldlM (fun value c => if c.isDigit then some (10 * value + (c.toNat - '0'.toNat))
    else none) 0

/-- An optional sign: whether it is `-`, and the text after it. -/
def splitSign : List Char → Bool × List Char
  | '-' :: rest => (true, rest)
  | '+' :: rest => (false, rest)
  | text => (false, text)

/-- A mantissa `d…d`, `d…d.`, `d…d.d…d` or `.d…d`: its digits read as one number, and how
many of them follow the point. -/
def mantissaDigits (text : List Char) : Option (Nat × Nat) :=
  match splitAtFirst '.' text with
  | none => if text = [] then none else (digitsValue text).map fun digits => (digits, 0)
  | some (whole, fraction) =>
      if whole = [] ∧ fraction = [] then none
      else do
        let w ← digitsValue whole
        let f ← digitsValue fraction
        pure (w * 10 ^ fraction.length + f, fraction.length)

/-- An exponent: digits after an optional sign. -/
def exponentValue (text : List Char) : Option Int :=
  let (negative, digits) := splitSign text
  if digits = [] then none
  else (digitsValue digits).map fun e => if negative then -(e : Int) else e

/-- The value of a decimal floating-point numeral `[+-]mantissa[e[+-]d…d]`, read on the
lower-cased text the scan hands over. -/
def floatValue (text : List Char) : Option ℚ := do
  let (negative, unsigned) := splitSign text
  let ((digits, point), exponent) ← match splitAtFirst 'e' unsigned with
    | none => (mantissaDigits unsigned).map fun mantissa => (mantissa, (0 : Int))
    | some (mantissa, exponent) =>
        (mantissaDigits mantissa).bind fun digits => (exponentValue exponent).map (digits, ·)
  let scale := exponent - point
  return mkRat ((if negative then -(digits : Int) else digits) * 10 ^ scale.toNat)
    (10 ^ (-scale).toNat)

example : floatValue "0.5".toList = some (mkRat 1 2) ∧ floatValue ".5".toList = some (mkRat 1 2) ∧
    floatValue "+1e-3".toList = some (mkRat 1 1000) ∧ floatValue "-1".toList = some (mkRat (-1) 1) ∧
    floatValue "2.".toList = some (mkRat 2 1) ∧ floatValue "high".toList = none ∧
    floatValue "1e".toList = none := by
  decide

/-- The weight the spec gives a quality text: its value, or `1` when it is not a number. -/
def specQuality (text : List Char) : ℚ :=
  (floatValue text).getD 1

/-- Modelled from the spec: `String::parseDouble` is not in the source.  The spec reads the
text after `q=` as the `<float>` it writes and gives an unparseable quality value weight 1
(§4.3, §7). -/
def specParseDouble (text : List Char) : Except Error ℚ :=
  .ok (specQuality text)

/-- The loop variables of `getRequestedCompression`. -/
structure Scan where
  maxQ : ℚ
  otherQ : ℚ
  named : List (List Char)
  compression : Compression
  deriving DecidableEq

/-- The loop variables before the first item. -/
def Scan.initial : Scan :=
  ⟨0, 0, [], .none⟩

/-- The loop body once the item's name and quality `q` are known.  A quality that beats
`maxQ` selects the item's codec, or is zeroed when the name is not recognised; then `maxQ`
takes the (possibly zeroed) quality if it is larger. -/
def Scan.update (scan : Scan) (name : List Char) (hasQuality : Bool) (q : ℚ) : Scan :=
  let q' := if scan.maxQ < q ∧ codecOf name = none then 0 else q
  { maxQ := if scan.maxQ < q' then q' else scan.maxQ
    otherQ := if hasQuality ∧ name = "*".toList then q else scan.otherQ
    named := scan.named ++ [name]
    compression :=
      if scan.maxQ < q then (codecOf name).getD scan.compression else scan.compression }

/-- One iteration of the scan. -/
def scanItem (parseDouble : List Char → Except Error ℚ) (scan : Scan) (item : List Char) :
    Except Error Scan := do
  let q ← itemQuality parseDouble (itemParts item).2
  pure (scan.update (itemParts item).1 (itemParts item).2.isSome q)

/-- The delimiters `getRequestedCompression` tokenizes on. -/
def acceptDelimiters : List Char :=
  [',', ' ', '\t']

/-- `Request::getRequestedCompression`, over the request's input headers. -/
def getRequestedCompression (parseDouble : List Char → Except Error ℚ) (input : Headers) :
    Except Error Compression :=
  if input.has "Accept-Encoding" = false then .ok .none
  else do
    let value ← input.get "Accept-Encoding"
    let scan ← (tokenize acceptDelimiters value.toList).foldlM (scanItem parseDouble)
      Scan.initial
    pure (if scan.maxQ < scan.otherQ ∧ "gzip".toList ∉ scan.named then .gzip
      else scan.compression)

/-! ## The reference rule -/

section Rule

variable (number : List Char → ℚ)

/-- The name of an item. -/
def itemName (item : List Char) : List Char :=
  (itemParts item).1

/-- The name is one of `identity`, `gzip`, `zlib`, `bzip2`. -/
def Recognised (item : List Char) : Bool :=
  (codecOf (itemName item)).isSome

/-- The weight of an item: the number its quality text denotes, or `1`. -/
def weight (item : List Char) : ℚ :=
  match (itemParts item).2 with
  | some text => number text
  | none => 1

/-- The greatest of `0` and the weights of the recognised items. -/
def maxWeight (items : List (List Char)) : ℚ :=
  ((items.filter Recognised).map (weight number)).foldl max 0

/-- `none` when the greatest weight is `0`, and otherwise the codec of the first recognised
item of greatest weight. -/
def selected (items : List (List Char)) : Compression :=
  if maxWeight number items = 0 then .none
  else
    match items.find? fun item =>
        Recognised item && decide (weight number item = maxWeight number items) with
    | some item => (codecOf (itemName item)).getD .none
    | none => .none

/-- The weight of the last wildcard item with a quality value, or `0`. -/
def wildcardWeight (items : List (List Char)) : ℚ :=
  match (items.filter fun item =>
      decide (itemName item = "*".toList) && (itemParts item).2.isSome).getLast? with
  | some item => weight number item
  | none => 0

/-- The declarative reading of the negotiation: gzip when the wildcard beats every recognised
coding and gzip is never named, and the first best recognised coding otherwise. -/
def requestedCompressionRule (items : List (List Char)) : Compression :=
  if maxWeight number items < wildcardWeight number items ∧
      ∀ item ∈ items, itemName item ≠ "gzip".toList then .gzip
  else selected number items

/-- The loop variables the rule predicts after a prefix of the items. -/
def ruleScan (items : List (List Char)) : Scan :=
  ⟨maxWeight number items, wildcardWeight number items, items.map itemName,
    selected number items⟩


/-! ### The rule after one more item -/

theorem foldl_max_cases (weights : List ℚ) (start : ℚ) :
    (start ≤ weights.foldl max start ∧ ∀ w ∈ weights, w ≤ weights.foldl max start) ∧
      (weights.foldl max start = start ∨ weights.foldl max start ∈ weights) := by
  induction weights generalizing start with
  | nil => simp
  | cons w rest ih =>
      obtain ⟨⟨start_le, rest_le⟩, eq_or_mem⟩ := ih (max start w)
      refine ⟨⟨(le_max_left _ _).trans start_le, ?_⟩, ?_⟩
      · simp only [List.mem_cons, forall_eq_or_imp, List.foldl_cons]
        exact ⟨(le_max_right _ _).trans start_le, rest_le⟩
      · rcases eq_or_mem with same | member
        · rcases max_choice start w with first | second
          · exact .inl (same.trans first)
          · exact .inr (by rw [List.foldl_cons, same, second]; exact List.mem_cons_self _ _)
        · exact .inr (List.mem_cons_of_mem _ member)

variable {number}

theorem zero_le_maxWeight (items : List (List Char)) : 0 ≤ maxWeight number items :=
  (foldl_max_cases _ 0).1.1

theorem weight_le_maxWeight {items : List (List Char)} {item : List Char}
    (member : item ∈ items) (recognised : Recognised item) :
    weight number item ≤ maxWeight number items :=
  (foldl_max_cases _ 0).1.2 _ (List.mem_map_of_mem _ (List.mem_filter.mpr ⟨member, recognised⟩))

theorem exists_weight_eq_maxWeight {items : List (List Char)}
    (positive : maxWeight number items ≠ 0) :
    ∃ item ∈ items, Recognised item ∧ weight number item = maxWeight number items := by
  rcases (foldl_max_cases ((items.filter Recognised).map (weight number)) 0).2 with zero | member
  · exact absurd zero positive
  · obtain ⟨item, filtered, equal⟩ := List.mem_map.mp member
    exact ⟨item, (List.mem_filter.mp filtered).1, (List.mem_filter.mp filtered).2, equal⟩

theorem maxWeight_append_singleton (items : List (List Char)) (item : List Char) :
    maxWeight number (items ++ [item]) =
      if Recognised item then max (maxWeight number items) (weight number item)
      else maxWeight number items := by
  unfold maxWeight
  split <;> simp [List.filter_append, *]

/-- The selection does not move while the greatest weight stays. -/
theorem selected_append_of_maxWeight_eq {items : List (List Char)} {item : List Char}
    (same : maxWeight number (items ++ [item]) = maxWeight number items) :
    selected number (items ++ [item]) = selected number items := by
  unfold selected
  rw [same]
  split
  · rfl
  · rename_i positive
    obtain ⟨best, member, recognised, equal⟩ := exists_weight_eq_maxWeight positive
    obtain ⟨found, finds⟩ : ∃ found, items.find? (fun item =>
        Recognised item && decide (weight number item = maxWeight number items)) = some found :=
      Option.isSome_iff_exists.mp (List.find?_isSome.mpr ⟨best, member, by simp [recognised, equal]⟩)
    simp [List.find?_append, finds]

/-- A recognised item that beats the greatest weight is selected. -/
theorem selected_append_of_lt {items : List (List Char)} {item : List Char}
    (recognised : Recognised item) (beats : maxWeight number items < weight number item) :
    selected number (items ++ [item]) = (codecOf (itemName item)).getD .none := by
  have raised : maxWeight number (items ++ [item]) = weight number item := by
    rw [maxWeight_append_singleton, if_pos recognised, max_eq_right beats.le]
  have earlier : items.find? (fun other => Recognised other &&
      decide (weight number other = weight number item)) = none :=
    List.find?_eq_none.mpr fun other member => by
      by_cases named : Recognised other
      · have : weight number other ≤ maxWeight number items := weight_le_maxWeight member named
        simp only [named, Bool.true_and, decide_eq_true_eq]
        exact (this.trans_lt beats).ne
      · simp [named]
  have positive : weight number item ≠ 0 := (beats.trans_le' (zero_le_maxWeight items)).ne'
  simp [selected, raised, positive, List.find?_append, earlier, recognised]

theorem wildcardWeight_append_singleton (items : List (List Char)) (item : List Char) :
    wildcardWeight number (items ++ [item]) =
      if (itemParts item).2.isSome ∧ itemName item = "*".toList then weight number item
      else wildcardWeight number items := by
  unfold wildcardWeight
  by_cases wildcard : (itemParts item).2.isSome ∧ itemName item = "*".toList
  · simp [List.filter_append, wildcard]
  · have dropped : (decide (itemName item = "*".toList) && (itemParts item).2.isSome) = false := by
      simpa [and_comm] using wildcard
    rw [List.filter_append, List.filter_singleton, dropped, cond_false, List.append_nil,
      if_neg wildcard]

@[simp] theorem ruleScan_nil : ruleScan number [] = Scan.initial := by
  simp [ruleScan, Scan.initial, maxWeight, wildcardWeight, selected]

/-- One loop iteration moves the predicted variables from a prefix to the prefix extended
by the item. -/
theorem ruleScan_update (items : List (List Char)) (item : List Char) :
    (ruleScan number items).update (itemName item) (itemParts item).2.isSome
        (weight number item) = ruleScan number (items ++ [item]) := by
  have nonneg : 0 ≤ maxWeight number items := zero_le_maxWeight items
  simp only [ruleScan, Scan.update, List.map_append, List.map_singleton,
    wildcardWeight_append_singleton, Scan.mk.injEq, true_and]
  by_cases beats : maxWeight number items < weight number item
  · by_cases recognised : Recognised item
    · have known : codecOf (itemName item) ≠ none := by
        simpa [Recognised, Option.isSome_iff_ne_none] using recognised
      refine ⟨?_, ?_⟩
      · simp [known, beats, maxWeight_append_singleton, recognised, max_eq_right beats.le]
      · rw [selected_append_of_lt recognised beats]
        obtain ⟨codec, named⟩ := Option.ne_none_iff_exists'.mp known
        simp [beats, named]
    · have unknown : codecOf (itemName item) = none := by simpa [Recognised] using recognised
      have same : maxWeight number (items ++ [item]) = maxWeight number items := by
        simp [maxWeight_append_singleton, recognised]
      refine ⟨?_, ?_⟩
      · simp [beats, unknown, not_lt.mpr nonneg, same]
      · simp [beats, unknown, selected_append_of_maxWeight_eq same]
  · have same : maxWeight number (items ++ [item]) = maxWeight number items := by
      rw [maxWeight_append_singleton]
      split <;> simp [max_eq_left (not_lt.mp beats)]
    refine ⟨?_, ?_⟩
    · simp [beats, same]
    · simp [beats, selected_append_of_maxWeight_eq same]

end Rule

/-! ## The scan computes the rule -/

section Scan

variable {parseDouble : List Char → Except Error ℚ} {number : List Char → ℚ}

/-- Every item's quality text parses, `number` giving its value. -/
def QualitiesParse (parseDouble : List Char → Except Error ℚ) (number : List Char → ℚ)
    (items : List (List Char)) : Prop :=
  ∀ item ∈ items, itemQuality parseDouble (itemParts item).2 = .ok (weight number item)

instance (items : List (List Char)) : Decidable (QualitiesParse parseDouble number items) :=
  inferInstanceAs (Decidable (∀ item ∈ items, _))

theorem qualitiesParse_specParseDouble (items : List (List Char)) :
    QualitiesParse specParseDouble specQuality items := by
  intro item _
  unfold weight
  cases (itemParts item).2 <;> rfl

/-- The loop invariant: after a prefix of the items the loop variables are the ones the rule
predicts for that prefix. -/
theorem foldlM_scanItem (items rest : List (List Char))
    (parses : QualitiesParse parseDouble number rest) :
    rest.foldlM (scanItem parseDouble) (ruleScan number items) =
      .ok (ruleScan number (items ++ rest)) := by
  induction rest generalizing items with
  | nil => simp only [List.foldlM_nil, List.append_nil]; rfl
  | cons item rest ih =>
      have step : scanItem parseDouble (ruleScan number items) item =
          .ok (ruleScan number (items ++ [item])) := by
        rw [← ruleScan_update, scanItem, parses item (List.mem_cons_self _ _)]
        rfl
      rw [List.foldlM_cons, step]
      simpa using ih (items ++ [item]) fun other member =>
        parses other (List.mem_cons_of_mem _ member)

theorem getRequestedCompression_of_get (input : Headers) {value : String}
    (found : input.get "Accept-Encoding" = .ok value)
    (parses : QualitiesParse parseDouble number (tokenize acceptDelimiters value.toList)) :
    getRequestedCompression parseDouble input =
      .ok (requestedCompressionRule number (tokenize acceptDelimiters value.toList)) := by
  have scanned := foldlM_scanItem [] _ parses
  rw [ruleScan_nil, List.nil_append] at scanned
  simp only [getRequestedCompression, input.has_of_get found, Bool.true_eq_false, if_false,
    found, bind, Except.bind, scanned, Functor.map, Except.map, pure, Except.pure]
  simp [requestedCompressionRule, ruleScan]

theorem getRequestedCompression_of_not_has (input : Headers)
    (absent : input.has "Accept-Encoding" = false) :
    getRequestedCompression parseDouble input = .ok .none := by
  simp [getRequestedCompression, absent]

end Scan

/-- The scan returns the rule's codec for every Accept-Encoding value whose quality texts
parse, and `none` when the request has no Accept-Encoding header. -/
theorem getRequestedCompression_eq_requestedCompressionRule
    (parseDouble : List Char → Except Error ℚ) (number : List Char → ℚ) (input : Headers) :
    (input.has "Accept-Encoding" = false →
        getRequestedCompression parseDouble input = .ok .none) ∧
      ∀ value, input.get "Accept-Encoding" = .ok value →
        QualitiesParse parseDouble number (tokenize acceptDelimiters value.toList) →
        getRequestedCompression parseDouble input =
          .ok (requestedCompressionRule number (tokenize acceptDelimiters value.toList)) :=
  ⟨getRequestedCompression_of_not_has input,
    fun _ found parses => getRequestedCompression_of_get input found parses⟩

theorem getRequestedCompression_gzip_half_zlib :
    (⟨[("Accept-Encoding", "gzip;q=0.5, zlib;q=0.8")]⟩ : Headers).get "Accept-Encoding" =
        .ok "gzip;q=0.5, zlib;q=0.8" ∧
      QualitiesParse specParseDouble specQuality
        (tokenize acceptDelimiters "gzip;q=0.5, zlib;q=0.8".toList) ∧
      getRequestedCompression specParseDouble ⟨[("Accept-Encoding", "gzip;q=0.5, zlib;q=0.8")]⟩ =
        .ok (requestedCompressionRule specQuality
          (tokenize acceptDelimiters "gzip;q=0.5, zlib;q=0.8".toList)) :=
  ⟨by decide, qualitiesParse_specParseDouble _,
    (getRequestedCompression_eq_requestedCompressionRule _ _ _).2 _ (by decide)
      (qualitiesParse_specParseDouble _)⟩

example : requestedCompressionRule specQuality
    (tokenize acceptDelimiters "gzip;q=0.5, zlib;q=0.8".toList) = .zlib := by decide

section Case

variable {parseDouble : List Char → Except Error ℚ}

/-- No character at or above `A`, and not NUL, is among characters below `A` other than NUL. -/
theorem contains_eq_false_of_outside {delims : List Char}
    (below : ∀ d ∈ delims, 0 < d.toNat ∧ d.toNat < 65) (c : Char)
    (outside : 65 ≤ c.toNat ∨ c = '\x00') : delims.contains c = false := by
  cases member : delims.contains c
  · rfl
  · have bounds := below c (List.elem_iff.mp member)
    rcases outside with above | rfl
    · omega
    · exact absurd bounds.1 (by decide)

/-- Lower-casing keeps characters below `A` other than NUL apart from the others. -/
theorem contains_toLower {delims : List Char} (below : ∀ d ∈ delims, 0 < d.toNat ∧ d.toNat < 65)
    (c : Char) : delims.contains c.toLower = delims.contains c := by
  unfold Char.toLower
  dsimp only
  split
  · rename_i upper
    rw [contains_eq_false_of_outside below c (.inl upper.1), contains_eq_false_of_outside below]
    unfold Char.ofNat
    split
    · exact .inl (show 65 ≤ c.toNat + 32 by omega)
    · exact .inr rfl
  · rfl

/-- Lower-casing keeps the delimiters and the other characters apart. -/
theorem acceptDelimiters_contains_toLower (c : Char) :
    acceptDelimiters.contains c.toLower = acceptDelimiters.contains c :=
  contains_toLower (by decide) c

/-- The loop body reads an item only through its lower-cased text. -/
theorem scanItem_of_toLower_eq {item item' : List Char} (same : toLower item = toLower item')
    (scan : Scan) : scanItem parseDouble scan item = scanItem parseDouble scan item' := by
  rw [scanItem, scanItem, itemParts, itemParts, same]

theorem foldlM_scanItem_of_toLower_eq {items items' : List (List Char)}
    (same : items.map toLower = items'.map toLower) (scan : Scan) :
    items.foldlM (scanItem parseDouble) scan = items'.foldlM (scanItem parseDouble) scan := by
  induction items generalizing items' scan with
  | nil => cases items' with
    | nil => rfl
    | cons => cases same
  | cons item items ih => cases items' with
    | nil => cases same
    | cons item' items' =>
        obtain ⟨head, tail⟩ := List.cons.inj same
        simp only [List.foldlM_cons, scanItem_of_toLower_eq head, ih tail]

end Case

/-- Coding names and quality parameters are matched without regard to case: two requests
whose Accept-Encoding values lower-case to the same text get the same compression, or the
same error from the quality parser. -/
theorem getRequestedCompression_ignores_case (parseDouble : List Char → Except Error ℚ)
    {input input' : Headers} {value value' : String}
    (found : input.get "Accept-Encoding" = .ok value)
    (found' : input'.get "Accept-Encoding" = .ok value')
    (sameLower : toLower value.toList = toLower value'.toList) :
    getRequestedCompression parseDouble input = getRequestedCompression parseDouble input' := by
  have tokens : (tokenize acceptDelimiters value.toList).map toLower =
      (tokenize acceptDelimiters value'.toList).map toLower :=
    (tokenize_map acceptDelimiters_contains_toLower _).symm.trans
      ((congrArg _ sameLower).trans (tokenize_map acceptDelimiters_contains_toLower _))
  simp only [getRequestedCompression, input.has_of_get found, input'.has_of_get found',
    Bool.true_eq_false, if_false, found, found', bind, Except.bind,
    foldlM_scanItem_of_toLower_eq tokens]

theorem getRequestedCompression_upper_case_gzip :
    (⟨[("Accept-Encoding", "GZIP;Q=0.5, Zlib;q=0.4")]⟩ : Headers).get "Accept-Encoding" =
        .ok "GZIP;Q=0.5, Zlib;q=0.4" ∧
      (⟨[("accept-encoding", "gzip;q=0.5, zlib;q=0.4")]⟩ : Headers).get "Accept-Encoding" =
        .ok "gzip;q=0.5, zlib;q=0.4" ∧
      toLower "GZIP;Q=0.5, Zlib;q=0.4".toList = toLower "gzip;q=0.5, zlib;q=0.4".toList ∧
      getRequestedCompression specParseDouble ⟨[("Accept-Encoding", "GZIP;Q=0.5, Zlib;q=0.4")]⟩ =
        getRequestedCompression specParseDouble ⟨[("accept-encoding", "gzip;q=0.5, zlib;q=0.4")]⟩ :=
  ⟨by decide, by decide, by decide,
    @getRequestedCompression_ignores_case specParseDouble _ _ "GZIP;Q=0.5, Zlib;q=0.4"
      "gzip;q=0.5, zlib;q=0.4" (by decide) (by decide) (by decide)⟩

/-! ## Optional whitespace -/

/-- Spaces and tabs only. -/
def Whitespace (text : List Char) : Prop :=
  ∀ c ∈ text, c = ' ' ∨ c = '\t'

instance (text : List Char) : Decidable (Whitespace text) :=
  inferInstanceAs (Decidable (∀ c ∈ text, c = ' ' ∨ c = '\t'))

/-- An Accept-Encoding item in RFC 7231 form `coding [OWS ";" OWS "q=" qvalue]`. -/
structure Item where
  coding : List Char
  qvalue : Option (List Char)
  deriving DecidableEq

/-- A coding and a qvalue are non-empty and hold no `,`, `;`, space or tab. -/
def Item.WellFormed (item : Item) : Prop :=
  item.coding ≠ [] ∧ DelimiterFree (';' :: acceptDelimiters) item.coding ∧
    ∀ qvalue, item.qvalue = some qvalue →
      qvalue ≠ [] ∧ DelimiterFree (';' :: acceptDelimiters) qvalue

instance (item : Item) : Decidable item.WellFormed :=
  match item with
  | ⟨coding, none⟩ => decidable_of_iff
      (coding ≠ [] ∧ DelimiterFree (';' :: acceptDelimiters) coding) (by simp [Item.WellFormed])
  | ⟨coding, some qvalue⟩ => decidable_of_iff
      (coding ≠ [] ∧ DelimiterFree (';' :: acceptDelimiters) coding ∧
        qvalue ≠ [] ∧ DelimiterFree (';' :: acceptDelimiters) qvalue)
      (by simp [Item.WellFormed])

/-- Optional whitespace around an item's `;` and around the `,` after it. -/
structure Spacing where
  beforeSemicolon : List Char
  afterSemicolon : List Char
  beforeComma : List Char
  afterComma : List Char
  deriving DecidableEq

/-- No optional whitespace at all. -/
def Spacing.tight : Spacing :=
  ⟨[], [], [], []⟩

/-- The text of one item. -/
def Item.write (item : Item) (spacing : Spacing) : List Char :=
  item.coding ++
    match item.qvalue with
    | none => []
    | some qvalue =>
        spacing.beforeSemicolon ++ ';' :: spacing.afterSemicolon ++ 'q' :: '=' :: qvalue

/-- The items in order, joined by commas. -/
def writeItems : List (Item × Spacing) → List Char
  | [] => []
  | (item, spacing) :: rest =>
      item.write spacing ++
        (if rest = [] then [] else spacing.beforeComma ++ ',' :: spacing.afterComma) ++
        writeItems rest

theorem Item.write_tight_delimiterFree {item : Item} (formed : item.WellFormed) :
    DelimiterFree acceptDelimiters (item.write Spacing.tight) ∧ item.write Spacing.tight ≠ [] := by
  obtain ⟨nonempty, coding, qvalues⟩ := formed
  refine ⟨fun c member excluded => ?_, by simp [Item.write, nonempty]⟩
  cases written : item.qvalue with
  | none =>
      simp only [Item.write, written, List.append_nil] at member
      exact coding c member (List.mem_cons_of_mem _ excluded)
  | some qvalue =>
      simp [Item.write, written, Spacing.tight] at member
      rcases member with inCoding | rfl | rfl | rfl | inQvalue
      · exact coding c inCoding (List.mem_cons_of_mem _ excluded)
      · simp [acceptDelimiters] at excluded
      · simp [acceptDelimiters] at excluded
      · simp [acceptDelimiters] at excluded
      · exact (qvalues qvalue written).2 c inQvalue (List.mem_cons_of_mem _ excluded)

/-- With no whitespace next to `;`, the items are exactly the tokens, whatever whitespace
stands around the commas. -/
theorem tokenize_writeItems (items : List (Item × Spacing))
    (formed : ∀ written ∈ items, written.1.WellFormed)
    (tight : ∀ written ∈ items,
      written.2.beforeSemicolon = [] ∧ written.2.afterSemicolon = [])
    (spaced : ∀ written ∈ items,
      Whitespace written.2.beforeComma ∧ Whitespace written.2.afterComma) :
    tokenize acceptDelimiters (writeItems items) =
      items.map fun written => written.1.write Spacing.tight := by
  induction items with
  | nil => rfl
  | cons written rest ih =>
      simp only [List.forall_mem_cons] at formed tight spaced
      obtain ⟨item, spacing⟩ := written
      have same : item.write spacing = item.write Spacing.tight := by
        obtain ⟨before, after⟩ : spacing.beforeSemicolon = [] ∧ spacing.afterSemicolon = [] :=
          tight.1
        simp [Item.write, Spacing.tight, before, after]
      obtain ⟨free, nonempty⟩ := Item.write_tight_delimiterFree formed.1
      rw [writeItems, same]
      split
      · subst_vars
        simp [writeItems, tokenize_of_delimiterFree free, nonempty]
      · obtain ⟨before, after⟩ := spaced.1
        rw [tokenize_token_separator free nonempty (by simp) (fun c member => ?_),
          ih formed.2 tight.2 spaced.2, List.map_cons]
        simp only [List.mem_append, List.mem_cons] at member
        rcases member with inBefore | rfl | inAfter
        · rcases before c inBefore with rfl | rfl <;> simp [acceptDelimiters]
        · simp [acceptDelimiters]
        · rcases after c inAfter with rfl | rfl <;> simp [acceptDelimiters]

/-- Whitespace around the commas does not change the negotiated codec. -/
theorem getRequestedCompression_comma_whitespace (parseDouble : List Char → Except Error ℚ)
    (input : Headers) (items : List (Item × Spacing))
    (formed : ∀ written ∈ items, written.1.WellFormed)
    (tight : ∀ written ∈ items,
      written.2.beforeSemicolon = [] ∧ written.2.afterSemicolon = [])
    (spaced : ∀ written ∈ items,
      Whitespace written.2.beforeComma ∧ Whitespace written.2.afterComma) :
    getRequestedCompression parseDouble (input.set "Accept-Encoding" ⟨writeItems items⟩) =
      getRequestedCompression parseDouble (input.set "Accept-Encoding"
        ⟨writeItems (items.map fun written => (written.1, Spacing.tight))⟩) := by
  have compact := tokenize_writeItems (items.map fun written => (written.1, Spacing.tight))
    (fun _ member => by
      obtain ⟨original, listed, rfl⟩ := List.mem_map.mp member
      exact formed original listed)
    (fun _ member => by
      obtain ⟨_, _, rfl⟩ := List.mem_map.mp member
      exact ⟨rfl, rfl⟩)
    (fun _ member => by
      obtain ⟨_, _, rfl⟩ := List.mem_map.mp member
      simp [Spacing.tight, Whitespace])
  have spread := tokenize_writeItems items formed tight spaced
  simp only [List.map_map, Function.comp_def] at compact
  simp only [getRequestedCompression, Headers.get_set_self, Headers.has_set_self, bind,
    Except.bind]
  rw [show (⟨writeItems items⟩ : String).toList = writeItems items from rfl, spread,
    show (⟨writeItems _⟩ : String).toList = writeItems _ from rfl, compact]

theorem getRequestedCompression_spaced_commas :
    getRequestedCompression specParseDouble (Headers.set ⟨[]⟩ "Accept-Encoding"
        ⟨writeItems [(⟨"gzip".toList, some "0.5".toList⟩, ⟨[], [], [' '], ['\t', ' ']⟩),
          (⟨"zlib".toList, none⟩, Spacing.tight)]⟩) =
      getRequestedCompression specParseDouble (Headers.set ⟨[]⟩ "Accept-Encoding"
        ⟨writeItems ([(⟨"gzip".toList, some "0.5".toList⟩, ⟨[], [], [' '], ['\t', ' ']⟩),
          (⟨"zlib".toList, none⟩, Spacing.tight)].map fun written => (written.1, Spacing.tight))⟩) :=
  getRequestedCompression_comma_whitespace specParseDouble _ _ (by decide) (by decide) (by decide)

/-- Whitespace after `;` splits the item: `gzip; q=0` is read as `gzip` of weight 1 and an
unrecognised `q=0`, so gzip is selected, while `gzip;q=0` selects nothing. -/
theorem getRequestedCompression_space_after_semicolon :
    getRequestedCompression specParseDouble (Headers.set ⟨[]⟩ "Accept-Encoding"
        ⟨writeItems [(⟨"gzip".toList, some "0".toList⟩, ⟨[], [' '], [], []⟩)]⟩) = .ok .gzip ∧
      getRequestedCompression specParseDouble (Headers.set ⟨[]⟩ "Accept-Encoding"
        ⟨writeItems [(⟨"gzip".toList, some "0".toList⟩, Spacing.tight)]⟩) = .ok .none := by
  decide

/-! ## Quality texts that are not numbers -/

end Negotiation

end CbangEvent
