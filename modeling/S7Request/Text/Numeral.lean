/-!
# Decimal numerals

The decimal digits that occur in a text, in order, and the natural number they spell. Only the
ten ASCII digits count as digits.
-/
namespace S7Request.Text

/-- The decimal digits of a text in order, everything else left out. -/
def digits (s : List Char) : List Char :=
  s.filter Char.isDigit

@[simp] theorem digits_append (s t : List Char) : digits (s ++ t) = digits s ++ digits t :=
  List.filter_append ..

theorem digits_eq_self {s : List Char} (h : ∀ c ∈ s, c.isDigit = true) : digits s = s :=
  List.filter_eq_self.2 h

theorem digits_eq_nil {s : List Char} (h : ∀ c ∈ s, c.isDigit = false) : digits s = [] :=
  List.filter_eq_nil_iff.2 fun c hc => by simp [h c hc]

/-- The number that the digits of a text spell, absent when it has none. -/
def numeral? (s : List Char) : Option Nat :=
  match digits s with
  | [] => none
  | ds => some (Nat.ofDigitChars 10 ds 0)

theorem numeral?_eq_none_iff {s : List Char} : numeral? s = none ↔ digits s = [] := by
  unfold numeral?
  split <;> simp_all

def decimal (n : Nat) : List Char :=
  Nat.toDigits 10 n

theorem isDigit_of_mem_decimal {n : Nat} {c : Char} (h : c ∈ decimal n) : c.isDigit = true :=
  Nat.isDigit_of_mem_toDigits (by decide) (by decide) h

theorem numeral?_decimal (n : Nat) : numeral? (decimal n) = some n := by
  have h : digits (decimal n) = decimal n := digits_eq_self fun _ => isDigit_of_mem_decimal
  have hn : decimal n ≠ [] := Nat.toDigits_ne_nil
  unfold numeral?
  rw [h]
  split
  · exact absurd ‹_› hn
  · rw [decimal, Nat.ofDigitChars_toDigits (by decide) (by decide)]

end S7Request.Text
