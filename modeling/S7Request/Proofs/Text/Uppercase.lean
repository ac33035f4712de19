import S7Request.Proofs.Text.Basic

/-!
# What upper case keeps

Digits and dots have no other upper case, and no other character has one with a digit or a dot in
it, so the upper case of a text has the same digits and is cut at the same places. Texts that differ
in the case of ASCII letters only have the same upper case and the same blanks.
-/
namespace S7Request.Text

/-- A digit or a dot, the characters that decide the numbers of a dotted text. -/
def IsMark (c : Char) : Prop :=
  c.isDigit = true ∨ c = '.'

instance (c : Char) : Decidable (IsMark c) :=
  inferInstanceAs (Decidable (_ ∨ _))

theorem IsMark.isPlain {c : Char} (h : IsMark c) : IsPlain c := by
  obtain h | rfl := h
  · exact isPlain_of_isDigit h
  · decide

/-- The marks come before the capital letters. -/
theorem IsMark.toNat_lt {c : Char} (h : IsMark c) : c.toNat < 0x41 := by
  obtain h | rfl := h
  · simp only [Char.isDigit, Bool.and_eq_true, decide_eq_true_eq, UInt32.le_iff_toNat_le] at h
    exact Nat.lt_of_le_of_lt h.2 (by decide)
  · decide

theorem not_isMark_of_le {c : Char} (h : 0x41 ≤ c.toNat) : ¬IsMark c :=
  fun hmark => Nat.not_le.2 hmark.toNat_lt h

theorem not_isMark_ofNat {n : ℕ} (h : 0x41 ≤ n) : ¬IsMark (Char.ofNat n) := by
  by_cases hvalid : n.isValidChar
  · have hn : Char.ofNat n = Char.ofNatAux n hvalid := dif_pos hvalid
    rw [hn]
    exact not_isMark_of_le h
  · have hzero : Char.ofNat n = '\x00' := dif_neg hvalid
    rw [hzero]
    decide

/-- What holds of the first 128 characters holds of every ASCII character. -/
theorem forall_ascii {P : Char → Prop} (h : ∀ n < 0x80, P (Char.ofNat n)) {c : Char}
    (hc : c.toNat < 0x80) : P c :=
  Char.ofNat_toNat c ▸ h c.toNat hc

theorem not_isMark_of_isAlpha {c : Char} (h : c.isAlpha = true) : ¬IsMark c := by
  intro hmark
  have hascii : c.toNat < 0x80 := Nat.lt_trans hmark.toNat_lt (by decide)
  exact forall_ascii (P := fun c => c.isAlpha = true → ¬IsMark c) (by decide +kernel) hascii h hmark

theorem digits_of_isAlpha {cs : List Char} (h : ∀ c ∈ cs, c.isAlpha = true) : digits cs = [] :=
  digits_eq_nil fun c hc => by
    simpa using fun hdigit => not_isMark_of_isAlpha (h c hc) (.inl hdigit)

theorem dot_not_mem_of_isAlpha {cs : List Char} (h : ∀ c ∈ cs, c.isAlpha = true) : '.' ∉ cs :=
  fun hdot => not_isMark_of_isAlpha (h '.' hdot) (.inr rfl)

/-- Only the letters from `a` to `z` are changed. -/
theorem toUpper_of_not_ascii {c : Char} (h : 0x80 ≤ c.toNat) : c.toUpper = c := by
  have hnot : ¬('a'.val ≤ c.val ∧ c.val ≤ 'z'.val) := fun hc =>
    absurd (UInt32.le_iff_toNat_le.1 hc.2) (Nat.not_le.2 (Nat.lt_of_lt_of_le (by decide) h))
  exact dif_neg hnot

/-- A character whose upper case is read off the table of runs has no mark for it. -/
theorem not_isMark_caseImage {c : Char} (h : 0x80 ≤ c.toNat) :
    ¬IsMark (caseImage upperRuns c) := by
  unfold caseImage
  cases himage : upperRuns.findSome? (·.image? c.toNat) with
  | none => exact not_isMark_of_le (Nat.le_trans (by decide) h)
  | some n =>
      obtain ⟨r, hr, hn⟩ := List.exists_of_findSome?_eq_some himage
      have hruns : ∀ r ∈ upperRuns, 0x41 ≤ r.image := by decide +kernel
      exact not_isMark_ofNat (Nat.le_trans (hruns r hr) (CaseRun.le_of_image? hn).2)

/-- The upper case of a character is not empty, and it has a mark in it only if the character is a
mark. -/
theorem uppercaseChar_spec (c : Char) :
    uppercaseChar c ≠ [] ∧ (¬IsMark c → ∀ d ∈ uppercaseChar c, ¬IsMark d) := by
  by_cases hascii : c.toNat < 0x80
  · have hupper : ¬IsMark c → ¬IsMark c.toUpper :=
      forall_ascii (P := fun c => ¬IsMark c → ¬IsMark c.toUpper) (by decide +kernel) hascii
    rw [uppercaseChar_ascii hascii]
    simpa using hupper
  · rw [uppercaseChar, if_neg hascii]
    split
    · rename_i images himages
      have hexpansions : ∀ p ∈ upperExpansions, p.2 ≠ [] ∧ ∀ n ∈ p.2, 0x41 ≤ n := by
        decide +kernel
      obtain ⟨before, after, he, -⟩ := List.lookup_eq_some_iff.1 himages
      obtain ⟨hne, hall⟩ := hexpansions (c.toNat, images) (by simp [he])
      refine ⟨by simpa using hne, fun _ d hd => ?_⟩
      obtain ⟨n, hn, rfl⟩ := List.mem_map.1 hd
      exact not_isMark_ofNat (hall n hn)
    · simpa using fun _ => not_isMark_caseImage (Nat.le_of_not_lt hascii)

theorem uppercaseChar_of_isMark {c : Char} (h : IsMark c) : uppercaseChar c = [c] :=
  h.isPlain.uppercaseChar_eq

theorem digits_uppercase (cs : List Char) : digits (uppercase cs) = digits cs := by
  induction cs with
  | nil => rfl
  | cons c cs ih =>
      rw [uppercase_cons, digits_append, ih]
      by_cases hmark : IsMark c
      · rw [uppercaseChar_of_isMark hmark, ← digits_append]
        rfl
      · have hnone : digits (uppercaseChar c) = [] := digits_eq_nil fun d hd => by
          simpa using fun hdigit => (uppercaseChar_spec c).2 hmark d hd (.inl hdigit)
        have hdigit : ¬c.isDigit = true := fun hdigit => hmark (.inl hdigit)
        rw [hnone, digits, digits, List.filter_cons_of_neg hdigit]
        rfl

theorem numeral?_congr {s t : List Char} (h : digits s = digits t) : numeral? s = numeral? t := by
  rw [numeral?, h, numeral?]

theorem dot_mem_uppercase {cs : List Char} (h : '.' ∈ uppercase cs) : '.' ∈ cs := by
  obtain ⟨c, hc, hdot⟩ := List.mem_flatMap.1 h
  by_cases hmark : IsMark c
  · rw [uppercaseChar_of_isMark hmark, List.mem_singleton] at hdot
    exact hdot ▸ hc
  · exact absurd (.inr rfl) ((uppercaseChar_spec c).2 hmark '.' hdot)

section LetterCase

theorem uppercaseChar_toUpper (c : Char) : uppercaseChar c.toUpper = uppercaseChar c := by
  by_cases hascii : c.toNat < 0x80
  · exact forall_ascii (P := fun c => uppercaseChar c.toUpper = uppercaseChar c)
      (by decide +kernel) hascii
  · rw [toUpper_of_not_ascii (Nat.le_of_not_lt hascii)]

theorem isBlank_toUpper (c : Char) : isBlank c.toUpper = isBlank c := by
  by_cases hascii : c.toNat < 0x80
  · exact forall_ascii (P := fun c => isBlank c.toUpper = isBlank c) (by decide +kernel) hascii
  · rw [toUpper_of_not_ascii (Nat.le_of_not_lt hascii)]

theorem uppercase_map_toUpper (cs : List Char) :
    uppercase (cs.map Char.toUpper) = uppercase cs := by
  induction cs with
  | nil => rfl
  | cons c cs ih => rw [List.map_cons, uppercase_cons, uppercaseChar_toUpper, ih, uppercase_cons]

theorem trim_map_toUpper (cs : List Char) :
    trim (cs.map Char.toUpper) = (trim cs).map Char.toUpper := by
  have hblank : isBlank ∘ Char.toUpper = isBlank := funext isBlank_toUpper
  rw [trim, trim, trimEnd_eq_rdropWhile, trimEnd_eq_rdropWhile, List.dropWhile_map, hblank,
    List.rdropWhile, ← List.map_reverse, List.dropWhile_map, hblank, ← List.map_reverse]
  rfl

end LetterCase

end S7Request.Text
