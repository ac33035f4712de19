import S7Request.Text.Numeral
import S7Request.Text.Segments
import S7Request.Text.Trim
import S7Request.Text.Uppercase
import Mathlib.Data.List.DropRight
import Mathlib.Data.Nat.Notation

/-!
# Texts as lists

Cutting a text at its dots and trimming it are the operations on lists of that kind. Segments that
are joined by dots are cut into the same segments, and a text of plain characters has no blanks to
trim and nothing to put into upper case.
-/
namespace S7Request.Text

abbrev Segments.toList (s : Segments) : List (List Char) :=
  s.head :: s.tail

theorem splitOn_dot (cs : List Char) : cs.splitOn '.' = (segments cs).toList := by
  induction cs with
  | nil => rfl
  | cons c cs ih =>
      rw [List.splitOn_eq_splitOnP] at ih ⊢
      rw [List.splitOnP_cons_eq_if_modifyHead, ih]
      by_cases hc : c = '.'
      · subst hc
        rfl
      · rw [segments_cons hc, if_neg (by simpa using hc)]
        rfl

theorem trimEnd_eq_rdropWhile (p : α → Bool) (l : List α) : trimEnd p l = l.rdropWhile p := by
  induction l using List.reverseRecOn with
  | nil => rfl
  | append_singleton l a ih =>
      cases ha : p a with
      | true =>
          rw [trimEnd_append_of_all l (by simpa using ha), List.rdropWhile_concat_pos p l a ha, ih]
      | false =>
          rw [trimEnd_append_singleton l ha, List.rdropWhile_concat_neg p l a (by simp [ha])]

/-- The segments with dots between them. -/
def Segments.join (s : Segments) : List Char :=
  s.head ++ s.tail.flatMap ('.' :: ·)

theorem segments_join {head : List Char} {tail : List (List Char)}
    (h : ∀ t ∈ head :: tail, '.' ∉ t) : segments (Segments.join ⟨head, tail⟩) = ⟨head, tail⟩ := by
  induction tail generalizing head with
  | nil =>
      rw [Segments.join, segments_append_of_no_dot (h head List.mem_cons_self)]
      simp
  | cons t tail ih =>
      rw [List.forall_mem_cons] at h
      have hrest := ih h.2
      rw [Segments.join] at hrest
      rw [Segments.join, segments_append_of_no_dot h.1]
      simp [hrest]

/-- A character between the blanks and the small letters of ASCII. -/
def IsPlain (c : Char) : Prop :=
  0x20 < c.toNat ∧ c.toNat < 0x61

instance (c : Char) : Decidable (IsPlain c) :=
  inferInstanceAs (Decidable (_ ∧ _))

theorem isPlain_of_isDigit {c : Char} (h : c.isDigit = true) : IsPlain c := by
  simp only [Char.isDigit, Bool.and_eq_true, decide_eq_true_eq, ge_iff_le,
    UInt32.le_iff_toNat_le] at h
  exact ⟨Nat.lt_of_lt_of_le (by decide) h.1, Nat.lt_of_le_of_lt h.2 (by decide)⟩

/-- The spelling of a number is a segment of a plain text. -/
theorem isPlain_decimal (n : ℕ) : ∀ c ∈ decimal n, IsPlain c ∧ c ≠ '.' := by
  intro c h
  have hdigit := isDigit_of_mem_decimal h
  refine ⟨isPlain_of_isDigit hdigit, ?_⟩
  rintro rfl
  contradiction

theorem decimal_ne_nil (n : ℕ) : decimal n ≠ [] :=
  Nat.toDigits_ne_nil

theorem IsPlain.isBlank_eq_false {c : Char} (h : IsPlain c) : isBlank c = false := by
  obtain ⟨hlt, hgt⟩ := h
  simp only [isBlank, Bool.or_eq_false_iff, Bool.and_eq_false_iff, decide_eq_false_iff_not,
    beq_eq_false_iff_ne]
  omega

theorem IsPlain.uppercaseChar_eq {c : Char} (h : IsPlain c) : uppercaseChar c = [c] := by
  have hnot : ¬('a'.val ≤ c.val ∧ c.val ≤ 'z'.val) := fun hc =>
    absurd (UInt32.le_iff_toNat_le.1 hc.1) (Nat.not_le.2 h.2)
  have hupper : c.toUpper = c := dif_neg hnot
  rw [uppercaseChar_ascii (Nat.lt_trans h.2 (by decide)), hupper]

theorem uppercase_of_plain {cs : List Char} (h : ∀ c ∈ cs, IsPlain c) : uppercase cs = cs := by
  induction cs with
  | nil => rfl
  | cons c cs ih =>
      rw [List.forall_mem_cons] at h
      rw [uppercase_cons, h.1.uppercaseChar_eq, ih h.2]
      rfl

theorem trim_of_plain {cs : List Char} (h : ∀ c ∈ cs, IsPlain c) : trim cs = cs := by
  have hblank : ∀ c ∈ cs, ¬isBlank c = true := fun c hc => by simp [(h c hc).isBlank_eq_false]
  have hstart := List.dropWhile_eq_self_iff.2 fun hl => hblank cs[0] (List.getElem_mem hl)
  have hstop := List.rdropWhile_eq_self_iff.2 fun hl => hblank (cs.getLast hl) (List.getLast_mem hl)
  rw [trim, trimEnd_eq_rdropWhile, hstart, hstop]

theorem numeral?_append {s : List Char} (hs : ∀ c ∈ s, c.isDigit = false) (cs : List Char) :
    numeral? (s ++ cs) = numeral? cs := by
  rw [numeral?, digits_append, digits_eq_nil hs]
  rfl

theorem numeral?_zero_cons {s : List Char} (h : digits s ≠ []) :
    numeral? ('0' :: s) = numeral? s := by
  have hcons : digits ('0' :: s) = '0' :: digits s := List.filter_cons_of_pos (by decide)
  cases hs : digits s with
  | nil => contradiction
  | cons d ds => simp [numeral?, hcons, hs, Nat.ofDigitChars_cons]

/-- Zeros before the digits of a text leave the number as it is. -/
theorem numeral?_zeros_append {s : List Char} (h : digits s ≠ []) (n : ℕ) :
    numeral? (List.replicate n '0' ++ s) = numeral? s := by
  induction n with
  | zero => rfl
  | succ n ih =>
      have hrest : digits (List.replicate n '0' ++ s) ≠ [] := by simp [h]
      rw [List.replicate_succ, List.cons_append, numeral?_zero_cons hrest, ih]

theorem numeral?_insert_zeros {s t : List Char} (hs : ∀ c ∈ s, c.isDigit = false)
    (ht : digits t ≠ []) (n : ℕ) :
    numeral? (s ++ List.replicate n '0' ++ t) = numeral? (s ++ t) := by
  rw [List.append_assoc, numeral?_append hs, numeral?_append hs, numeral?_zeros_append ht]

end S7Request.Text
