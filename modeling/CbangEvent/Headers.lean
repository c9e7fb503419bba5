import CbangEvent.Basic

/-!
# Header lists

`Request` reads and writes the transport's header lists through the library's `Headers`
view.  The view is not part of the request code; it is modelled from the spec (§4.2): an
ordered list of entries whose names compare case-insensitively, where `add` appends, `set`
replaces every entry of the name and `remove` deletes them all.
-/

namespace CbangEvent

/-- Modelled from the spec: the `Headers` view over the transport's header list is not in
the source.  The entries in order, each a name and a value. -/
structure Headers where
  entries : List (String × String)
  deriving DecidableEq, Repr

namespace Headers

/-- The case-folded form under which header names are compared. -/
def nameKey (name : String) : List Char :=
  toLower name.toList

/-- The entry carries the name, up to case. -/
def carries (name : String) (entry : String × String) : Bool :=
  nameKey entry.1 == nameKey name

/-- `Headers::has`. -/
def has (headers : Headers) (name : String) : Bool :=
  headers.entries.any (carries name)

/-- `Headers::get`: the first value of the name; raises when there is none. -/
def get (headers : Headers) (name : String) : Except Error String :=
  match headers.entries.find? (carries name) with
  | some entry => .ok entry.2
  | none => .error (.notFound name)

/-- `Headers::add`: append an entry. -/
def add (headers : Headers) (name value : String) : Headers :=
  ⟨headers.entries ++ [(name, value)]⟩

/-- `Headers::remove`: delete every entry of the name. -/
def remove (headers : Headers) (name : String) : Headers :=
  ⟨headers.entries.filter fun entry => !carries name entry⟩

/-- `Headers::set`: replace every entry of the name by one entry. -/
def set (headers : Headers) (name value : String) : Headers :=
  (headers.remove name).add name value

/-- `Headers::hasContentType`. -/
def hasContentType (headers : Headers) : Bool :=
  headers.has "Content-Type"

/-- `Headers::setContentType`. -/
def setContentType (headers : Headers) (contentType : String) : Headers :=
  headers.set "Content-Type" contentType

/-- The values of every entry of the name, in order. -/
def values (headers : Headers) (name : String) : List String :=
  (headers.entries.filter (carries name)).map Prod.snd

/-! ## Values after an update -/

variable (headers : Headers) {name other : String} (value : String)

@[simp] theorem values_add_self : (headers.add name value).values name =
    headers.values name ++ [value] := by
  simp [add, values, carries]

@[simp] theorem values_remove_self : (headers.remove name).values name = [] := by
  simp [remove, values, List.filter_filter]

@[simp] theorem values_set_self : (headers.set name value).values name = [value] := by
  simp [set]

theorem values_add_of_ne (distinct : nameKey other ≠ nameKey name) :
    (headers.add other value).values name = headers.values name := by
  simp [add, values, carries, distinct]

theorem values_remove_of_ne (distinct : nameKey other ≠ nameKey name) :
    (headers.remove other).values name = headers.values name := by
  simp only [remove, values, List.filter_filter]
  congr 2
  funext entry
  by_cases named : carries name entry = true
  · have : carries other entry = false := by
      simp_all [carries, Ne.symm distinct]
    simp [named, this]
  · simp [named]

theorem values_set_of_ne (distinct : nameKey other ≠ nameKey name) :
    (headers.set other value).values name = headers.values name := by
  rw [set, values_add_of_ne _ _ distinct, values_remove_of_ne _ distinct]

theorem get_of_has (present : headers.has name = true) :
    ∃ value, headers.get name = .ok value := by
  cases found : headers.entries.find? (carries name) with
  | none =>
      obtain ⟨entry, member, named⟩ := List.any_eq_true.mp present
      simp [List.find?_eq_none.mp found entry member] at named
  | some entry => exact ⟨entry.2, by simp [get, found]⟩

@[simp] theorem get_set_self : (headers.set name value).get name = .ok value := by
  have earlier : (headers.remove name).entries.find? (carries name) = none :=
    List.find?_eq_none.mpr fun entry member => by
      simpa [remove] using (List.mem_filter.mp member).2
  simp [set, add, get, List.find?_append, earlier, carries]

theorem has_of_get {value : String} (found : headers.get name = .ok value) :
    headers.has name = true := by
  cases lookup : headers.entries.find? (carries name) with
  | none => simp [get, lookup] at found
  | some entry => exact List.any_eq_true.mpr ⟨entry, List.mem_of_find?_eq_some lookup,
      List.find?_some lookup⟩

theorem not_has_of_get_error {e : Error} (missing : headers.get name = .error e) :
    headers.has name = false := by
  cases present : headers.has name
  · rfl
  · obtain ⟨_, found⟩ := get_of_has headers present
    rw [found] at missing
    cases missing

@[simp] theorem has_set_self : (headers.set name value).has name = true :=
  has_of_get _ (get_set_self headers value)

end Headers

end CbangEvent
