/-!
# Named entries

A finite map from names to values as a list of pairs in which the first entry of a name counts.
-/
namespace S7Request

abbrev Entries (α : Type u) := List (String × α)

namespace Entries

def get? (es : Entries α) (name : String) : Option α :=
  match es with
  | [] => none
  | (n, a) :: rest => if n = name then some a else get? rest name

/-- The entries with a value for a name, in the place of its old value or at the end. -/
def put (es : Entries α) (name : String) (value : α) : Entries α :=
  match es with
  | [] => [(name, value)]
  | (n, a) :: rest => if n = name then (n, value) :: rest else (n, a) :: put rest name value

/-- The entries without the first one of a name. -/
def erase (es : Entries α) (name : String) : Entries α :=
  match es with
  | [] => []
  | (n, a) :: rest => if n = name then rest else (n, a) :: erase rest name

@[simp] theorem get?_put_self (es : Entries α) (name : String) (value : α) :
    (es.put name value).get? name = some value := by
  induction es with
  | nil => simp [put, get?]
  | cons e rest ih =>
      obtain ⟨n, a⟩ := e
      by_cases h : n = name <;> simp [put, get?, h, ih]

theorem get?_put_of_ne (es : Entries α) {name other : String} (value : α) (h : other ≠ name) :
    (es.put name value).get? other = es.get? other := by
  induction es with
  | nil => simp [put, get?, Ne.symm h]
  | cons e rest ih =>
      obtain ⟨n, a⟩ := e
      by_cases hn : n = name
      · simp [put, get?, hn, Ne.symm h]
      · by_cases ho : n = other
        · subst ho; simp [put, get?, hn]
        · simp [put, get?, hn, ho, ih]

end Entries

end S7Request
