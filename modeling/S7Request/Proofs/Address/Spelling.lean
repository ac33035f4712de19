import S7Request.Proofs.Address.Reading
import Mathlib.Logic.Relation

/-!
# Spellings of an address

An address can be spelt with blanks around it, with letters of either case, with more letters in a
segment that has a digit, with zeros before a number, and with dots at the end. Each such edit keeps
the first character of the normalized text and the numbers of its segments, or it keeps the
normalized text as it is, so any number of them leads to an address of the same item.
-/
namespace S7Request.Grammar

/-- One edit of an address that changes its spelling only. -/
inductive Respells : String → String → Prop
  | blanksBefore {a blanks : String} : (∀ c ∈ blanks.toList, Text.isBlank c = true) →
      Respells a (blanks ++ a)
  | blanksAfter {a blanks : String} : (∀ c ∈ blanks.toList, Text.isBlank c = true) →
      Respells a (a ++ blanks)
  /-- Upper case is compared as ASCII has it, so all other characters stay the same. -/
  | letterCase {a b : String} : a.toList.map Char.toUpper = b.toList.map Char.toUpper →
      Respells a b
  /-- Letters come into a segment that has a digit, after the first character of the address that
  is not blank, which is the area letter. -/
  | letters {before left right after letters : String} :
      Text.IsSegment before.toList (left ++ right).toList after.toList →
      (∃ c ∈ (left ++ right).toList, c.isDigit = true) →
      (∃ c ∈ (before ++ left).toList, Text.isBlank c = false) →
      (∀ c ∈ letters.toList, c.isAlpha = true) →
      Respells (before ++ (left ++ right) ++ after) (before ++ (left ++ letters ++ right) ++ after)
  /-- Zeros come before the digits of a segment that has one, right before the first of them or
  anywhere else after the area letter. -/
  | zeros {before left right after : String} {n : ℕ} :
      Text.IsSegment before.toList (left ++ right).toList after.toList →
      (∀ c ∈ left.toList, c.isDigit = false) →
      (∃ c ∈ right.toList, c.isDigit = true) →
      (∃ c ∈ (before ++ left).toList, Text.isBlank c = false) ∨
        (∃ c ∈ right.toList.head?, c.isDigit = true) →
      Respells (before ++ (left ++ right) ++ after)
        (before ++ (left ++ String.ofList (List.replicate n '0') ++ right) ++ after)
  | dots {a : String} {n : ℕ} : (∀ c ∈ a.toList.getLast?, Text.isBlank c = false) →
      Respells a (a ++ String.ofList (List.replicate n '.'))

variable {a b : String} {policy : VPolicy} {count : UInt32} {size : TransportSize} {item : Item}

theorem SameReading.of_normalized_eq (h : normalized a = normalized b) : SameReading a b := by
  refine ⟨by rw [h], ?_⟩
  rw [segments_eq_significant, h, segments_eq_significant]

section Head

/-- The first character of an address is read off the first one that is not blank. -/
theorem head?_normalized (address : String) :
    (normalized address).head? =
      (address.toList.dropWhile Text.isBlank).head?.bind fun c => (Text.uppercaseChar c).head? := by
  rw [normalized, Text.trim]
  cases hfront : address.toList.dropWhile Text.isBlank with
  | nil => rfl
  | cons c cs =>
      have hc : Text.isBlank c = false := by
        have hhead := List.head?_dropWhile_not Text.isBlank address.toList
        rw [hfront] at hhead
        simpa using hhead
      have hne := (Text.uppercaseChar_spec c).1
      rw [Text.trimEnd_cons_of_not hc, Text.uppercase_cons, List.head?_append_of_ne_nil _ hne]
      rfl

/-- What comes after a character that is not blank does not matter for the first one. -/
theorem head?_normalized_eq {front xs ys : List Char} (ha : a.toList = front ++ xs)
    (hb : b.toList = front ++ ys) (hfront : ∃ c ∈ front, Text.isBlank c = false) :
    (normalized a).head? = (normalized b).head? := by
  obtain ⟨c, hc, hblank⟩ := Text.exists_mem_dropWhile hfront
  have hne : front.dropWhile Text.isBlank ≠ [] := List.ne_nil_of_mem hc
  rw [head?_normalized, head?_normalized, ha, hb, Text.dropWhile_append_of_exists hfront,
    Text.dropWhile_append_of_exists hfront, List.head?_append_of_ne_nil _ hne,
    List.head?_append_of_ne_nil _ hne]

theorem isDigit_of_area? {letter : Char} {area : Area} (h : area? policy letter = some area) :
    letter.isDigit = false := by
  unfold area? at h
  split at h
  all_goals first | decide | contradiction

theorem exists_area_of_resolve (h : resolve policy a count size = .ok item) :
    ∃ letter, (normalized a).head? = some letter ∧ letter.isDigit = false := by
  obtain ⟨letter, hform, -⟩ := resolve_eq_ok_iff_names.1 h
  obtain ⟨rest, hhead⟩ := hform.head
  obtain ⟨area, harea⟩ := hform.area
  rw [getElem?_zero_segments] at hhead
  exact ⟨letter, (exists_head_iff.1 ⟨rest, hhead⟩).1, isDigit_of_area? harea⟩

/-- An address that is resolved has something before its digits, its area letter at the least. -/
theorem exists_of_resolve_digit {front rest : List Char} {d : Char} (hd : d.isDigit = true)
    (ha : a.toList = front ++ d :: rest) (h : resolve policy a count size = .ok item) :
    ∃ c ∈ front, Text.isBlank c = false := by
  by_contra hnone
  have hblank : front.dropWhile Text.isBlank = [] := by
    refine List.dropWhile_eq_nil_iff.2 fun c hc => ?_
    by_contra hc'
    exact hnone ⟨c, hc, by simpa using hc'⟩
  obtain ⟨letter, hletter, hnot⟩ := exists_area_of_resolve h
  have hfirst : (normalized a).head? = some d := by
    rw [head?_normalized, ha, Text.dropWhile_append_cons (Text.isBlank_of_isDigit hd), hblank]
    simp [Text.uppercaseChar_of_isMark (.inl hd)]
  obtain rfl : d = letter := Option.some.inj (hfirst.symm.trans hletter)
  simp [hd] at hnot

end Head

/-- Putting characters into a segment keeps the reading when they come after the area letter and
the number of the segment stays the same. -/
theorem SameReading.of_insert {before left inserted right after : List Char}
    (ha : a.toList = before ++ (left ++ right) ++ after)
    (hb : b.toList = before ++ (left ++ inserted ++ right) ++ after)
    (hsegment : Text.IsSegment before (left ++ right) after) (hdot : '.' ∉ inserted)
    (hfront : ∃ c ∈ before ++ left, Text.isBlank c = false)
    (hdigit : Text.digits (left ++ right) ≠ [])
    (hnumber : Text.numeral? (left ++ inserted ++ right) = Text.numeral? (left ++ right)) :
    SameReading a b := by
  have hdigit' : Text.digits (left ++ inserted ++ right) ≠ [] := fun hnone => by
    rw [Text.numeral?_eq_none_iff.2 hnone] at hnumber
    exact hdigit (Text.numeral?_eq_none_iff.1 hnumber.symm)
  obtain ⟨s, hs, hsegments⟩ := exists_segments_eq hsegment hdigit ha
  obtain ⟨t, ht, hsegments'⟩ := exists_segments_eq (hsegment.insert hdot) hdigit' hb
  have hst : Text.numeral? s = Text.numeral? t := by
    rw [Text.numeral?_congr hs, ← hnumber, Text.numeral?_congr ht]
  refine ⟨?_, ?_⟩
  · have ha' : a.toList = (before ++ left) ++ (right ++ after) := by simp [ha]
    have hb' : b.toList = (before ++ left) ++ (inserted ++ right ++ after) := by simp [hb]
    exact head?_normalized_eq ha' hb' hfront
  · simp [hsegments, hsegments', hst]

/-- Dots at the end of an address are at the end of its text as well. -/
theorem normalized_append_dots {n : ℕ} (hne : a.toList ≠ [])
    (hlast : ∀ c ∈ a.toList.getLast?, Text.isBlank c = false)
    (hb : b.toList = a.toList ++ List.replicate n '.') :
    normalized b = normalized a ++ List.replicate n '.' := by
  have hplain : ∀ d ∈ List.replicate n '.', Text.IsPlain d := fun d hd => by
    rw [List.eq_of_mem_replicate hd]
    decide
  obtain ⟨cs, c, ha⟩ : ∃ cs c, a.toList = cs ++ [c] :=
    ⟨_, _, (List.dropLast_append_getLast hne).symm⟩
  have hc : Text.isBlank c = false := hlast c (by simp [ha])
  have htrim : Text.trim a.toList = cs.dropWhile Text.isBlank ++ [c] := by
    rw [ha]
    exact Text.trim_append_cons hc (by simp) cs
  have htrim' : Text.trim b.toList = Text.trim a.toList ++ List.replicate n '.' := by
    rw [htrim, hb, ha, List.append_assoc, List.append_assoc]
    exact Text.trim_append_cons hc (fun d hd => (hplain d hd).isBlank_eq_false) cs
  rw [normalized, htrim', Text.uppercase_append, Text.uppercase_of_plain hplain]
  rfl

theorem SameReading.of_dots {n : ℕ} (htext : normalized a ≠ [])
    (hlast : ∀ c ∈ a.toList.getLast?, Text.isBlank c = false)
    (hb : b.toList = a.toList ++ List.replicate n '.') : SameReading a b := by
  have hne : a.toList ≠ [] := fun hnil => htext (by rw [normalized, hnil]; rfl)
  have h := normalized_append_dots hne hlast hb
  refine ⟨by rw [h, List.head?_append_of_ne_nil _ htext], ?_⟩
  rw [segments_eq_significant, segments_eq_significant, h, Text.splitOn_append_replicate_dot,
    significant_append_replicate (List.splitOn_ne_nil _ _)]

/-- One edit keeps what is read of an address that is resolved. -/
theorem Respells.sameReading (h : Respells a b) (ha : resolve policy a count size = .ok item) :
    SameReading a b := by
  cases h with
  | blanksBefore hblanks =>
      refine .of_normalized_eq ?_
      rw [normalized, normalized, String.toList_append, Text.trim_append_left hblanks]
  | blanksAfter hblanks =>
      refine .of_normalized_eq ?_
      rw [normalized, normalized, String.toList_append, Text.trim_append_right hblanks]
  | letterCase hcase =>
      refine .of_normalized_eq ?_
      rw [normalized, normalized, ← Text.uppercase_map_toUpper, ← Text.trim_map_toUpper, hcase,
        Text.trim_map_toUpper, Text.uppercase_map_toUpper]
  | letters hsegment hdigit hfront hletters =>
      simp only [String.toList_append] at hsegment hdigit hfront
      refine .of_insert (by simp) (by simp) hsegment (Text.dot_not_mem_of_isAlpha hletters) hfront
        (digits_ne_nil_iff.2 hdigit) (Text.numeral?_congr ?_)
      simp [Text.digits_of_isAlpha hletters]
  | @zeros before left right after n hsegment hleft hright hfront =>
      have hdigit : Text.digits right.toList ≠ [] := digits_ne_nil_iff.2 hright
      have hfront' : ∃ c ∈ (before ++ left).toList, Text.isBlank c = false := by
        obtain hfront | ⟨d, hfirst, hd⟩ := hfront
        · exact hfront
        -- Zeros right before a digit come after the area letter, since the address is resolved.
        · obtain ⟨rest, hrest⟩ := List.head?_eq_some_iff.1 hfirst
          have happend : (before ++ (left ++ right) ++ after).toList =
              (before ++ left).toList ++ d :: (rest ++ after.toList) := by simp [hrest]
          exact exists_of_resolve_digit hd happend ha
      simp only [String.toList_append] at hsegment hfront'
      exact .of_insert (by simp) (by simp) hsegment (by simp) hfront' (by simp [hdigit])
        (Text.numeral?_insert_zeros hleft hdigit n)
  | @dots a n hlast =>
      have happend : (a ++ String.ofList (List.replicate n '.')).toList =
          a.toList ++ List.replicate n '.' := by simp
      exact .of_dots (resolve_eq_ok_iff.1 ha).1 hlast happend

/-- An address that is resolved is resolved to the same item however it is spelt. -/
theorem resolve_respelt (policy : VPolicy) (count : UInt32) (size : TransportSize) (item : Item)
    (a b : String) (hspelling : Relation.ReflTransGen Respells a b)
    (ha : resolve policy a count size = .ok item) : resolve policy b count size = .ok item := by
  induction hspelling with
  | refl => exact ha
  | tail _ hedit ih => exact (hedit.sameReading ih).resolve_eq ih

/-- A bit of a data block, with an edit of each kind. -/
theorem resolve_respelt_bit :
    Relation.ReflTransGen Respells "DB7.4.2" " db7.X004.2.. " ∧
      resolve .reject " db7.X004.2.. " 1 .bit = .ok ⟨.dataBlocks, 7, 4, 2, .bit, 1⟩ := by
  have hspace : Text.isBlank ' ' = true := by decide
  have hletter : Text.isBlank 'd' = false := by decide
  have hdigit : Text.isBlank '2' = false := by decide
  have hbefore : "db7.".toList = [] ∨ ∃ rest, "db7.".toList = rest ++ ['.'] :=
    .inr ⟨['d', 'b', '7'], by simp⟩
  have hafter : ".2".toList = [] ∨ ∃ rest, ".2".toList = '.' :: rest := .inr ⟨['2'], by simp⟩
  have hcase : Respells "DB7.4.2" "db7.4.2" := .letterCase (by decide)
  have hletters : Respells "db7.4.2" "db7.X4.2" :=
    @Respells.letters "db7." "" "4" ".2" "X" ⟨by simp, hbefore, hafter⟩ (by simp)
      (by simp [hletter]) (by simp)
  have hzeros : Respells "db7.X4.2" "db7.X004.2" :=
    @Respells.zeros "db7." "X" "4" ".2" 2 ⟨by simp, hbefore, hafter⟩ (by simp) (by simp)
      (by simp [hletter])
  have hdots : Respells "db7.X004.2" "db7.X004.2.." := @Respells.dots _ 2 (by simp [hdigit])
  have hblankBefore : Respells "db7.X004.2.." " db7.X004.2.." :=
    @Respells.blanksBefore _ " " (by simp [hspace])
  have hblankAfter : Respells " db7.X004.2.." " db7.X004.2.. " :=
    @Respells.blanksAfter _ " " (by simp [hspace])
  have hspelling : Relation.ReflTransGen Respells "DB7.4.2" " db7.X004.2.. " :=
    .head hcase <| .head hletters <| .head hzeros <| .head hdots <| .head hblankBefore <|
      .single hblankAfter
  exact ⟨hspelling, resolve_respelt _ _ _ _ _ _ hspelling (by decide +kernel)⟩

end S7Request.Grammar
