/-!
# Trimming

A list loses its longest run of final members that satisfy a test, and a text loses the blank
characters at both of its ends. A blank is a character with the Unicode property `White_Space`.
-/
namespace S7Request.Text

/-- The list without its longest run of final members that satisfy `p`. -/
def trimEnd (p : α → Bool) : List α → List α
  | [] => []
  | a :: rest =>
      match trimEnd p rest with
      | [] => if p a then [] else [a]
      | kept => a :: kept

@[simp] theorem trimEnd_nil (p : α → Bool) : trimEnd p [] = [] := rfl

theorem trimEnd_eq_nil_iff {p : α → Bool} {l : List α} :
    trimEnd p l = [] ↔ ∀ a ∈ l, p a = true := by
  induction l with
  | nil => simp
  | cons a rest ih =>
      cases h : trimEnd p rest with
      | nil =>
          have := ih.1 h
          by_cases ha : p a = true
          · simpa [trimEnd, h, ha] using this
          · simp [trimEnd, h, ha]
      | cons b kept =>
          have : ¬ ∀ a ∈ rest, p a = true := fun hall => by simp [ih.2 hall] at h
          simp only [trimEnd, h, List.mem_cons, forall_eq_or_imp, reduceCtorEq, false_iff]
          exact fun hall => this hall.2

theorem trimEnd_append_of_all {p : α → Bool} (l : List α) {t : List α}
    (ht : ∀ a ∈ t, p a = true) : trimEnd p (l ++ t) = trimEnd p l := by
  induction l with
  | nil => simpa using trimEnd_eq_nil_iff.2 ht
  | cons a rest ih => simp [trimEnd, ih]

theorem trimEnd_append_singleton {p : α → Bool} (l : List α) {a : α} (ha : p a = false) :
    trimEnd p (l ++ [a]) = l ++ [a] := by
  induction l with
  | nil => simp [trimEnd, ha]
  | cons b rest ih => cases rest <;> simp_all [trimEnd]

/-- A character with the Unicode property `White_Space`. -/
def isBlank (c : Char) : Bool :=
  let n := c.toNat
  (0x9 ≤ n && n ≤ 0xd) || n == 0x20 || n == 0x85 || n == 0xa0 || n == 0x1680 ||
    (0x2000 ≤ n && n ≤ 0x200a) || n == 0x2028 || n == 0x2029 || n == 0x202f || n == 0x205f ||
    n == 0x3000

/-- The text without the blanks at its two ends. -/
def trim (cs : List Char) : List Char :=
  trimEnd isBlank (cs.dropWhile isBlank)

end S7Request.Text
