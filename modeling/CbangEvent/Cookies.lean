import CbangEvent.Finalize
import Mathlib.Data.String.Basic

/-!
# Inbound cookies

`Request::hasCookie` and `Request::findCookie` each tokenize the first Cookie header on
`"; \t\n\r"` and scan the tokens for one whose text before the first `=` is the name;
`findCookie` returns the text after that `=`.  `getCookie` raises when `hasCookie` is false
and otherwise returns `findCookie`.

The two scans are written separately in the source.  `hasCookieIn_eq_isSome` says they look
for the same token, whatever the header holds.  On a header written from name/value pairs
the tokens are the pairs (`tokenize_headerText`), so `hasCookie` decides membership of the
name and `findCookie` returns the value of its first pair.
-/

namespace CbangEvent

namespace Cookies

/-! ## The scans over the tokens -/

/-- The delimiters the cookie methods tokenize the Cookie header on. -/
def delimiters : List Char :=
  [';', ' ', '\t', '\n', '\r']

/-- `cookies[i].substr(0, cookies[i].find('='))`: the token's text before its first `=`, or
the whole token. -/
def cookieName (token : List Char) : List Char :=
  match splitAtFirst '=' token with
  | some (before, _) => before
  | none => token

/-- `pos == string::npos ? string() : cookies[i].substr(pos + 1)`. -/
def cookieValue (token : List Char) : List Char :=
  match splitAtFirst '=' token with
  | some (_, after) => after
  | none => []

/-- `name == cookies[i].substr(0, pos)`. -/
def names (name : String) (token : List Char) : Bool :=
  decide (cookieName token = name.toList)

/-- The loop of `hasCookie`. -/
def hasCookieIn (name : String) (cookies : List (List Char)) : Bool :=
  cookies.any (names name)

/-- The loop of `findCookie`: the value of the first token that names the cookie. -/
def findCookieIn (name : String) (cookies : List (List Char)) : String :=
  match cookies.find? (names name) with
  | some cookie => String.mk (cookieValue cookie)
  | none => ""

/-- The loop of `hasCookie` stops exactly where the loop of `findCookie` returns. -/
theorem hasCookieIn_eq_isSome (name : String) (cookies : List (List Char)) :
    hasCookieIn name cookies = (cookies.find? (names name)).isSome := by
  rw [Bool.eq_iff_iff, hasCookieIn, List.any_eq_true, List.find?_isSome]

/-! ## A header written from name/value pairs -/

/-- A pair written as `name=value`. -/
def pairText (pair : String × String) : List Char :=
  pair.1.toList ++ '=' :: pair.2.toList

/-- The pairs written as `name=value` and joined by `"; "`. -/
def headerText : List (String × String) → List Char
  | [] => []
  | [pair] => pairText pair
  | pair :: next :: rest => pairText pair ++ "; ".toList ++ headerText (next :: rest)

/-- A pair a Cookie header carries as one token: a non-empty name with no `=` and no
delimiter, and a value with no delimiter. -/
@[mk_iff]
structure WellFormed (pair : String × String) : Prop where
  name_ne_empty : pair.1 ≠ ""
  eq_not_mem_name : '=' ∉ pair.1.toList
  name_free : DelimiterFree delimiters pair.1.toList
  value_free : DelimiterFree delimiters pair.2.toList

instance (pair : String × String) : Decidable (WellFormed pair) :=
  decidable_of_iff _ (wellFormed_iff pair).symm

variable {pair : String × String} {pairs : List (String × String)}

theorem pairText_ne_nil : pairText pair ≠ [] := by
  simp [pairText]

theorem WellFormed.pairText_free (formed : WellFormed pair) :
    DelimiterFree delimiters (pairText pair) := by
  intro c member
  rw [pairText, List.mem_append, List.mem_cons] at member
  rcases member with inName | rfl | inValue
  · exact formed.name_free c inName
  · decide
  · exact formed.value_free c inValue

/-- The tokens of a header written from well-formed pairs are the pairs. -/
theorem tokenize_headerText (formed : ∀ pair ∈ pairs, WellFormed pair) :
    tokenize delimiters (headerText pairs) = pairs.map pairText := by
  induction pairs using headerText.induct with
  | case1 => rfl
  | case2 pair =>
      rw [headerText,
        tokenize_of_delimiterFree (formed pair (List.mem_singleton_self _)).pairText_free,
        if_neg pairText_ne_nil, List.map_singleton]
  | case3 pair next rest ih =>
      rw [headerText, tokenize_token_separator
        (formed pair (List.mem_cons_self _ _)).pairText_free pairText_ne_nil (by decide)
        (by decide), ih fun other member => formed other (List.mem_cons_of_mem _ member),
        ← List.map_cons]

theorem WellFormed.cookieName_pairText (formed : WellFormed pair) :
    cookieName (pairText pair) = pair.1.toList := by
  rw [cookieName, pairText, splitAtFirst_append_cons formed.eq_not_mem_name]

theorem WellFormed.cookieValue_pairText (formed : WellFormed pair) :
    cookieValue (pairText pair) = pair.2.toList := by
  rw [cookieValue, pairText, splitAtFirst_append_cons formed.eq_not_mem_name]

/-- The scan meets the pairs' tokens in order, and a pair's token names exactly its name. -/
theorem find?_names_pairText (name : String) (formed : ∀ pair ∈ pairs, WellFormed pair) :
    (pairs.map pairText).find? (names name) =
      (pairs.find? fun pair => pair.1 = name).map pairText := by
  induction pairs with
  | nil => rfl
  | cons pair rest ih =>
      have named : names name (pairText pair) = decide (pair.1 = name) := by
        rw [names, (formed pair (List.mem_cons_self _ _)).cookieName_pairText,
          decide_eq_decide, String.toList_inj]
      rw [List.map_cons, List.find?_cons, List.find?_cons, named,
        ih fun other member => formed other (List.mem_cons_of_mem _ member)]
      cases decide (pair.1 = name) <;> rfl

theorem hasCookieIn_pairs (name : String) (formed : ∀ pair ∈ pairs, WellFormed pair) :
    hasCookieIn name (pairs.map pairText) = decide (∃ pair ∈ pairs, pair.1 = name) := by
  rw [hasCookieIn_eq_isSome, find?_names_pairText name formed, Option.isSome_map',
    Bool.eq_iff_iff, List.find?_isSome, decide_eq_true_iff]
  simp only [decide_eq_true_eq]

theorem findCookieIn_pairs (name : String) (formed : ∀ pair ∈ pairs, WellFormed pair) :
    findCookieIn name (pairs.map pairText) =
      ((pairs.find? fun pair => pair.1 = name).map Prod.snd).getD "" := by
  rw [findCookieIn, find?_names_pairText name formed]
  cases first : pairs.find? fun pair => pair.1 = name with
  | none => rfl
  | some pair =>
      exact congrArg String.mk (formed pair (List.mem_of_find?_eq_some first)).cookieValue_pairText

end Cookies

namespace Request

/-! ## The methods -/

/-- `Request::inHas`. -/
def inHas (name : String) : RequestM Bool := do
  return (← getInputHeaders).has name

/-- `Request::inGet`. -/
def inGet (name : String) : RequestM String := do
  match (← getInputHeaders).get name with
  | .ok value => return value
  | .error e => throw e

/-- `Request::hasCookie`. -/
def hasCookie (name : String) : RequestM Bool := do
  if ← inHas "Cookie" then
    let cookies := tokenize Cookies.delimiters (← inGet "Cookie").toList
    return Cookies.hasCookieIn name cookies
  else return false

/-- `Request::findCookie`. -/
def findCookie (name : String) : RequestM String := do
  if ← inHas "Cookie" then
    let cookies := tokenize Cookies.delimiters (← inGet "Cookie").toList
    return Cookies.findCookieIn name cookies
  else return ""

/-- `Request::getCookie`. -/
def getCookie (name : String) : RequestM String := do
  if ← hasCookie name then findCookie name
  else throw (.exception ("Cookie \x27" ++ name ++ "\x27 not set"))

/-- `Request::getSessionID`: the header when the request has it, else the cookie. -/
def getSessionID (cookie header : String) : RequestM String := do
  if ← inHas header then inGet header else findCookie cookie

section Spec

variable {world : World} (held : world.req = true) {name : String}
include held

theorem inHas_of_req : inHas name world = .ok (world.inputHeaders.has name) world.touched := by
  obtain ⟨⟩ := world
  cases held
  rfl

theorem inGet_of_get {value : String} (found : world.inputHeaders.get name = .ok value) :
    inGet name world = .ok value world.touched :=
  returns_bind (getInputHeaders_of_req held) (by rw [found]; rfl)

theorem hasCookie_of_get {text : String} (found : world.inputHeaders.get "Cookie" = .ok text) :
    hasCookie name world =
      .ok (Cookies.hasCookieIn name (tokenize Cookies.delimiters text.toList))
        world.touched.touched := by
  refine returns_bind (inHas_of_req held) ?_
  rw [Headers.has_of_get _ found]
  exact returns_bind (@inGet_of_get world.touched held _ _ found) rfl

theorem hasCookie_of_not_has (absent : world.inputHeaders.has "Cookie" = false) :
    hasCookie name world = .ok false world.touched := by
  refine returns_bind (inHas_of_req held) ?_
  rw [absent]
  rfl

theorem findCookie_of_get {text : String} (found : world.inputHeaders.get "Cookie" = .ok text) :
    findCookie name world =
      .ok (Cookies.findCookieIn name (tokenize Cookies.delimiters text.toList))
        world.touched.touched := by
  refine returns_bind (inHas_of_req held) ?_
  rw [Headers.has_of_get _ found]
  exact returns_bind (@inGet_of_get world.touched held _ _ found) rfl

theorem findCookie_of_not_has (absent : world.inputHeaders.has "Cookie" = false) :
    findCookie name world = .ok "" world.touched := by
  refine returns_bind (inHas_of_req held) ?_
  rw [absent]
  rfl

end Spec

end Request

/-- Cookie lookup decodes the Cookie header.  On a header written from well-formed
name/value pairs, `hasCookie` decides whether the name is one of the pairs' names and
`findCookie` returns the value of the first pair of the name, or the empty string.  On every
header, `hasCookie` holds exactly when `findCookie`'s scan meets a token whose text before
the first `=` is the name, and `getCookie` raises when `hasCookie` is false and otherwise
returns what `findCookie` returns. -/
theorem cookie_lookup_decodes_header (world : World) (held : world.req = true) (name : String) :
    (∀ pairs : List (String × String), (∀ pair ∈ pairs, Cookies.WellFormed pair) →
      world.inputHeaders.get "Cookie" = .ok (String.mk (Cookies.headerText pairs)) →
      (∃ world', Request.hasCookie name world =
        .ok (decide (∃ pair ∈ pairs, pair.1 = name)) world') ∧
      ∃ world', Request.findCookie name world =
        .ok (((pairs.find? fun pair => pair.1 = name).map Prod.snd).getD "") world') ∧
    ∃ found world₁, Request.hasCookie name world = .ok found world₁ ∧
      (found = true ↔ ∃ text, world.inputHeaders.get "Cookie" = .ok text ∧
        ((tokenize Cookies.delimiters text.toList).find? (Cookies.names name)).isSome) ∧
      ∃ value world₂, Request.findCookie name world = .ok value world₂ ∧
        (found = true → ∃ world₃, Request.getCookie name world = .ok value world₃) ∧
        (found = false → ∃ world₃, Request.getCookie name world =
          .error (.exception ("Cookie \x27" ++ name ++ "\x27 not set")) world₃) := by
  refine ⟨fun pairs formed found => ?_, ?_⟩
  · have tokens : tokenize Cookies.delimiters (String.mk (Cookies.headerText pairs)).toList =
        pairs.map Cookies.pairText := Cookies.tokenize_headerText formed
    exact ⟨⟨_, by rw [Request.hasCookie_of_get held found, tokens,
        Cookies.hasCookieIn_pairs name formed]⟩,
      _, by rw [Request.findCookie_of_get held found, tokens,
        Cookies.findCookieIn_pairs name formed]⟩
  cases lookup : world.inputHeaders.get "Cookie" with
  | ok text =>
      refine ⟨_, _, Request.hasCookie_of_get held lookup, ?_, _, _,
        Request.findCookie_of_get held lookup, fun present => ?_, fun absent => ?_⟩
      · rw [Cookies.hasCookieIn_eq_isSome]
        exact ⟨fun scanned => ⟨text, rfl, scanned⟩, fun ⟨_, rfl, scanned⟩ => scanned⟩
      · exact ⟨_, returns_bind (Request.hasCookie_of_get held lookup) (by
          rw [present]
          exact @Request.findCookie_of_get world.touched.touched held _ _ lookup)⟩
      · exact ⟨_, raises_after (Request.hasCookie_of_get held lookup) (by rw [absent]; rfl)⟩
  | error e =>
      have absent := Headers.not_has_of_get_error _ lookup
      refine ⟨_, _, Request.hasCookie_of_not_has held absent, ?_, _, _,
        Request.findCookie_of_not_has held absent, nofun,
        fun _ => ⟨_, raises_after (Request.hasCookie_of_not_has held absent) rfl⟩⟩
      exact ⟨nofun, fun ⟨_, same, _⟩ => nomatch same⟩

theorem cookie_lookup_first_of_duplicates :
    (∃ world', Request.findCookie "a"
        (Request.delivered ⟨[("Cookie", "a=1; b=2; a=3")]⟩ (1, 1) false) = .ok "1" world') ∧
      ∃ world', Request.getCookie "c"
        (Request.delivered ⟨[("Cookie", "a=1; b=2; a=3")]⟩ (1, 1) false) =
          .error (.exception "Cookie \x27c\x27 not set") world' := by
  refine ⟨((cookie_lookup_decodes_header _ rfl "a").1 [("a", "1"), ("b", "2"), ("a", "3")]
    (by decide) (by decide)).2, ?_⟩
  obtain ⟨found, -, -, scanned, -, -, -, -, missing⟩ := (cookie_lookup_decodes_header
    (Request.delivered ⟨[("Cookie", "a=1; b=2; a=3")]⟩ (1, 1) false) rfl "c").2
  cases found
  · exact missing rfl
  · obtain ⟨text, same, found⟩ := scanned.mp rfl
    cases same
    exact absurd found (by decide)

end CbangEvent
