import S7Request.Proofs.Address.Resolve
import S7Request.Proofs.Text.Surroundings

/-!
# What is read of an address

An address is read by its first character and by the numbers of its segments. Two addresses with the
same first character whose segments have the same numbers are resolved to the same item, whatever
else they consist of. The number of a segment that has a digit depends on its digits alone, and such
a segment keeps its place when the text is trimmed and put into upper case.
-/
namespace S7Request.Grammar

variable {a b address : String} {letter : Char}

/-- The first segment begins with what the text begins with, unless that is a dot. -/
theorem exists_head_iff :
    (∃ rest, (addressSegments address).head = letter :: rest) ↔
      (normalized address).head? = some letter ∧ letter ≠ '.' := by
  unfold addressSegments
  cases htext : normalized address with
  | nil => simp
  | cons c cs =>
      by_cases hc : c = '.'
      · subst hc
        simpa using fun he : '.' = letter => he.symm
      · simpa [Text.segments_cons hc] using fun he : c = letter => he ▸ hc

/-- The segments without the empty ones at the end, except that the first one stays. -/
def significant : List (List Char) → List (List Char)
  | [] => []
  | first :: rest => first :: rest.rdropWhile List.isEmpty

theorem segments_eq_significant (address : String) :
    segments address = significant ((normalized address).splitOn '.') := by
  unfold segments significant
  rfl

/-- Only what comes after a segment that is not empty is removed. -/
theorem significant_append_cons {s : List Char} (hs : s ≠ []) (before after : List (List Char)) :
    significant (before ++ s :: after) = before ++ s :: after.rdropWhile List.isEmpty := by
  have hkept : s.isEmpty = false := by simpa using hs
  cases before with
  | nil => rfl
  | cons first rest =>
      rw [List.cons_append, significant, ← Text.trimEnd_eq_rdropWhile,
        Text.trimEnd_append_of_exists ⟨s, List.mem_cons_self, hkept⟩,
        Text.trimEnd_cons_of_not hkept, Text.trimEnd_eq_rdropWhile]
      rfl

theorem significant_append_replicate {parts : List (List Char)} (h : parts ≠ []) (n : ℕ) :
    significant (parts ++ List.replicate n []) = significant parts := by
  cases parts with
  | nil => contradiction
  | cons first rest =>
      rw [List.cons_append, significant, significant, ← Text.trimEnd_eq_rdropWhile,
        Text.trimEnd_append_of_all rest (by simp), Text.trimEnd_eq_rdropWhile]

/-- The segments that come before a segment, as they count in the normalized text. -/
def segmentsBefore (before : List Char) : List (List Char) :=
  ((Text.uppercase (before.dropWhile Text.isBlank)).splitOn '.').dropLast

/-- The segments that come after a segment, as they count in the normalized text. -/
def segmentsAfter (after : List Char) : List (List Char) :=
  ((Text.uppercase (Text.trimEnd Text.isBlank after)).splitOn '.').tail.rdropWhile List.isEmpty

/-- A segment with a digit stays a segment, with the same digits, and what comes before and after it
does not depend on it. -/
theorem exists_segments_eq {before s after : List Char} (h : Text.IsSegment before s after)
    (hdigit : Text.digits s ≠ []) (haddress : address.toList = before ++ s ++ after) :
    ∃ t, Text.digits t = Text.digits s ∧
      segments address = segmentsBefore before ++ t :: segmentsAfter after := by
  have hmark := Text.exists_not_blank (digits_ne_nil_iff.1 hdigit)
  have hdigits : Text.digits (Text.uppercase (Text.trimSegment before s after)) =
      Text.digits s := by
    rw [Text.digits_uppercase, Text.digits_trimSegment]
  have hne : Text.uppercase (Text.trimSegment before s after) ≠ [] := by
    intro hnil
    rw [hnil] at hdigits
    exact hdigit hdigits.symm
  refine ⟨_, hdigits, ?_⟩
  rw [segments_eq_significant, normalized, haddress, h.trim_eq hmark, Text.uppercase_append,
    Text.uppercase_append, h.trimmed.uppercase.splitOn_eq, significant_append_cons hne]
  rfl

/-- Two addresses begin with the same character, and their segments have the same numbers. -/
structure SameReading (a b : String) : Prop where
  head_eq : (normalized a).head? = (normalized b).head?
  numerals_eq : (segments a).map Text.numeral? = (segments b).map Text.numeral?

section Numerals

variable {s? t? : Option (List Char)} {bound : ℕ}

theorem number_eq (s : List Char) : number s = (Text.numeral? s).getD 0 := by
  by_cases h : Text.digits s = []
  · have hnumber : number s = Nat.ofDigitChars 10 [] 0 := congrArg (Nat.ofDigitChars 10 · 0) h
    rw [hnumber, Text.numeral?_eq_none_iff.2 h]
    rfl
  · rw [numeral?_of_digits_ne h]
    rfl

/-- A segment is in range when its digits spell a number, and one that is not too large. -/
theorem numbered_iff_numeral? :
    Numbered bound s? ↔ ∀ n? ∈ s?.map Text.numeral?, ∃ n ∈ n?, n ≤ bound := by
  cases s? with
  | none => simp [Numbered]
  | some s =>
      by_cases h : Text.digits s = []
      · have hnone := digits_eq_nil_iff.1 h
        simp [Numbered, hnone, Text.numeral?_eq_none_iff.2 h]
      · have hdigit := digits_ne_nil_iff.1 h
        simp [Numbered, hdigit, numeral?_of_digits_ne h]

theorem numbered_congr (h : s?.map Text.numeral? = t?.map Text.numeral?) :
    Numbered bound s? ↔ Numbered bound t? := by
  rw [numbered_iff_numeral?, h, numbered_iff_numeral?]

theorem value_congr (h : s?.map Text.numeral? = t?.map Text.numeral?) : value s? = value t? := by
  have hvalue : ∀ u? : Option (List Char),
      value u? = ((u?.map Text.numeral?).map (·.getD 0)).getD 0 := by
    intro u?
    cases u? <;> simp [value, number_eq]
  rw [hvalue, h, hvalue]

end Numerals

namespace SameReading

variable {policy : VPolicy} {count : UInt32} {size : TransportSize} {item : Item}

theorem getElem?_eq (h : SameReading a b) (i : ℕ) :
    (segments a)[i]?.map Text.numeral? = (segments b)[i]?.map Text.numeral? := by
  rw [← List.getElem?_map, h.numerals_eq, List.getElem?_map]

theorem blockSegment?_eq (h : SameReading a b) :
    (blockSegment? letter (segments a)).map Text.numeral? =
      (blockSegment? letter (segments b)).map Text.numeral? := by
  unfold blockSegment?
  split
  · exact h.getElem?_eq 0
  · rfl

theorem byteSegment?_eq (h : SameReading a b) :
    (byteSegment? letter (segments a)).map Text.numeral? =
      (byteSegment? letter (segments b)).map Text.numeral? := by
  unfold byteSegment?
  split
  · exact h.getElem?_eq 1
  · exact h.getElem?_eq 0

theorem bitSegment?_eq (h : SameReading a b) :
    (bitSegment? size letter (segments a)).map Text.numeral? =
      (bitSegment? size letter (segments b)).map Text.numeral? := by
  unfold bitSegment?
  split
  · split
    · exact h.getElem?_eq 2
    · exact h.getElem?_eq 1
  · rfl

theorem blockNumber_eq (h : SameReading a b) :
    blockNumber policy letter (segments a) = blockNumber policy letter (segments b) := by
  unfold blockNumber
  split
  · rfl
  · exact value_congr h.blockSegment?_eq

theorem exists_head (h : SameReading a b)
    (hhead : ∃ rest, (segments a)[0]? = some (letter :: rest)) :
    ∃ rest, (segments b)[0]? = some (letter :: rest) := by
  simp only [getElem?_zero_segments] at hhead ⊢
  rw [exists_head_iff] at hhead ⊢
  rwa [← h.head_eq]

/-- An address is resolved to what another one with the same reading is resolved to. -/
theorem resolve_eq (h : SameReading a b) (hresolve : resolve policy a count size = .ok item) :
    resolve policy b count size = .ok item := by
  obtain ⟨letter, hform, hnames⟩ := resolve_eq_ok_iff_names.1 hresolve
  have hhead := h.exists_head hform.head
  have htext : normalized b ≠ [] := by
    obtain ⟨rest, hrest⟩ := hhead
    intro hnil
    rw [segments_eq_significant, hnil] at hrest
    simp [significant] at hrest
  refine resolve_eq_ok_iff_names.2 ⟨letter, ?_, ?_⟩
  · exact ⟨htext, hform.count_pos, hhead, hform.area,
      (numbered_congr h.blockSegment?_eq).1 hform.block,
      (numbered_congr h.byteSegment?_eq).1 hform.byte,
      (numbered_congr h.bitSegment?_eq).1 hform.bit⟩
  · exact ⟨hnames.area_eq, hnames.dbNumber_eq.trans h.blockNumber_eq,
      hnames.byteAddress_eq.trans (value_congr h.byteSegment?_eq),
      hnames.bitAddress_eq.trans (value_congr h.bitSegment?_eq), hnames.transportSize_eq,
      hnames.count_eq⟩

end SameReading

end S7Request.Grammar
