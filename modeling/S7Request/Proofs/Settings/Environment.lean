import S7Request.Proofs.Settings.Library
import S7Request.Proofs.Text.Uppercase
import S7Request.Settings.Standard

/-!
# Variables read by the standard library

A name of capitals, digits and single underscores is split at every two underscores, a number is
read as an integer, and a word as a text.
-/
namespace S7Request.Settings

section Names

variable {c : Char} {cs rest : List Char} {stem : String} {parts : List String}

/-- Capitals and digits are ASCII characters, and no underscores in lower case. -/
theorem toLower_of_isMark (h : (c.isUpper || c.isDigit) = true) :
    c.toNat < 0x80 ∧ c.toLower ≠ '_' := by
  have hascii : c.toNat < 0x80 := by
    obtain h | h := Bool.or_eq_true_iff.1 h
    · have hle : c.val ≤ 'Z'.val := (of_decide_eq_true h).2
      exact Nat.lt_of_le_of_lt (UInt32.le_iff_toNat_le.1 hle) (by decide)
    · have hle : c.val ≤ '9'.val := of_decide_eq_true (Bool.and_eq_true_iff.1 h).2
      exact Nat.lt_of_le_of_lt (UInt32.le_iff_toNat_le.1 hle) (by decide)
  refine ⟨hascii, ?_⟩
  exact Text.forall_ascii (P := fun c => (c.isUpper || c.isDigit) = true → c.toLower ≠ '_')
    (by decide +kernel) hascii h

theorem isPart_ascii (h : isPart cs = true) : ∀ c ∈ cs, c.toNat < 0x80 := by
  fun_induction isPart cs with
  | case1 => contradiction
  | case2 c => simpa using (toLower_of_isMark h).1
  | case3 c rest ih =>
      obtain ⟨hmark, hrest⟩ := Bool.and_eq_true_iff.1 h
      have hunderscore : '_'.toNat < 0x80 := by decide
      exact List.forall_mem_cons.2
        ⟨(toLower_of_isMark hmark).1, List.forall_mem_cons.2 ⟨hunderscore, ih hrest⟩⟩
  | case4 c rest _ _ ih =>
      obtain ⟨hmark, hrest⟩ := Bool.and_eq_true_iff.1 h
      exact List.forall_mem_cons.2 ⟨(toLower_of_isMark hmark).1, ih hrest⟩

/-- A part begins with a capital or a digit. -/
theorem exists_isMark_of_isPart (h : isPart cs = true) :
    ∃ c tail, cs = c :: tail ∧ (c.isUpper || c.isDigit) = true := by
  fun_induction isPart cs with
  | case1 => contradiction
  | case2 c => exact ⟨c, [], rfl, h⟩
  | case3 c rest => exact ⟨c, '_' :: rest, rfl, (Bool.and_eq_true_iff.1 h).1⟩
  | case4 c rest => exact ⟨c, rest, rfl, (Bool.and_eq_true_iff.1 h).1⟩

theorem dotted_cons_of_ne (h : c ≠ '_') :
    dotted ['_', '_'] 0 (c :: rest) = c :: dotted ['_', '_'] 0 rest := by
  simp [dotted, List.isPrefixOf, Ne.symm h]

/-- Within a part there is nothing to replace. -/
theorem dotted_append_of_isPart (h : isPart cs = true) (rest : List Char) :
    dotted ['_', '_'] 0 (cs.map Char.toLower ++ rest) =
      cs.map Char.toLower ++ dotted ['_', '_'] 0 rest := by
  fun_induction isPart cs with
  | case1 => contradiction
  | case2 c => exact dotted_cons_of_ne (toLower_of_isMark h).2
  | case3 c tail ih =>
      obtain ⟨hmark, htail⟩ := Bool.and_eq_true_iff.1 h
      obtain ⟨d, ds, rfl, hd⟩ := exists_isMark_of_isPart htail
      -- The underscore stands before a character that is none.
      have hunderscore : dotted ['_', '_'] 0 ('_' :: ((d :: ds).map Char.toLower ++ rest)) =
          '_' :: dotted ['_', '_'] 0 ((d :: ds).map Char.toLower ++ rest) := by
        have hne := (toLower_of_isMark hd).2
        simp [dotted, List.isPrefixOf, Ne.symm hne]
      rw [List.map_cons, List.map_cons, List.cons_append, List.cons_append,
        dotted_cons_of_ne (toLower_of_isMark hmark).2]
      exact congrArg _ (hunderscore.trans (congrArg _ (ih htail)))
  | case4 c tail _ _ ih =>
      obtain ⟨hmark, htail⟩ := Bool.and_eq_true_iff.1 h
      rw [List.map_cons, List.cons_append, dotted_cons_of_ne (toLower_of_isMark hmark).2, ih htail]
      rfl

/-- Two underscores between parts are replaced. -/
theorem dotted_separator (rest : List Char) :
    dotted ['_', '_'] 0 ('_' :: '_' :: rest) = '.' :: dotted ['_', '_'] 0 rest := by
  simp [dotted, List.isPrefixOf]

theorem toList_lowercase_of_isPart {s : String} (h : isPart s.toList = true) :
    (Text.lowercase s).toList = s.toList.map Char.toLower :=
  Text.toList_lowercase (isPart_ascii h)

/-- The parts of a name are joined by dots. -/
theorem dotted_intercalate (hne : parts ≠ []) (h : ∀ s ∈ parts, isPart s.toList = true) :
    dotted ['_', '_'] 0 (("__".intercalate parts).toList.map Char.toLower) =
      (".".intercalate (parts.map Text.lowercase)).toList := by
  induction parts with
  | nil => contradiction
  | cons s parts ih =>
      obtain ⟨hs, hparts⟩ := List.forall_mem_cons.1 h
      cases parts with
      | nil =>
          rw [List.map_cons, List.map_nil, String.intercalate_singleton,
            String.intercalate_singleton, toList_lowercase_of_isPart hs]
          simpa [dotted] using dotted_append_of_isPart hs []
      | cons t parts =>
          have hrest := ih (by simp) hparts
          rw [String.intercalate_cons_cons, List.map_cons, List.map_cons,
            String.intercalate_cons_cons, ← List.map_cons]
          simp only [String.toList_append, List.map_append, List.append_assoc,
            dotted_append_of_isPart hs, toList_lowercase_of_isPart hs, ← hrest]
          exact congrArg _ (dotted_separator _)

theorem ascii_intercalate (h : ∀ s ∈ parts, isPart s.toList = true) :
    ∀ c ∈ ("__".intercalate parts).toList, c.toNat < 0x80 := by
  induction parts with
  | nil => simp
  | cons s parts ih =>
      obtain ⟨hs, hparts⟩ := List.forall_mem_cons.1 h
      cases parts with
      | nil => simpa using isPart_ascii hs
      | cons t parts =>
          have hunderscores : ∀ c ∈ "__".toList, c.toNat < 0x80 := by simp
          rw [String.intercalate_cons_cons]
          simp only [String.toList_append, List.forall_mem_append]
          exact ⟨⟨isPart_ascii hs, hunderscores⟩, ih hparts⟩

theorem variablePath?_intercalate (hne : parts ≠ [])
    (h : ∀ s ∈ stem :: parts, isPart s.toList = true) :
    variablePath? stem "__" ("__".intercalate (stem :: parts)) =
      some (".".intercalate (parts.map Text.lowercase)) := by
  have hparts : ∀ s ∈ parts, isPart s.toList = true := (List.forall_mem_cons.1 h).2
  have hname : "__".intercalate (stem :: parts) = stem ++ "__" ++ "__".intercalate parts :=
    String.intercalate_cons_of_ne_nil hne
  have hascii := ascii_intercalate h
  rw [hname] at hascii ⊢
  have hstart : ∀ c ∈ (stem ++ "__").toList, c.toNat < 0x80 := fun c hc =>
    hascii c (by simp only [String.toList_append, List.mem_append] at hc ⊢; exact .inl hc)
  have hlower : (Text.lowercase (stem ++ "__" ++ "__".intercalate parts)).toList =
      (Text.lowercase (stem ++ "__")).toList ++
        ("__".intercalate parts).toList.map Char.toLower := by
    rw [Text.toList_lowercase hascii, Text.toList_lowercase hstart, String.toList_append,
      List.map_append]
  simp only [variablePath?, hlower, List.drop_left]
  rw [if_pos (List.isPrefixOf_iff_prefix.2 (List.prefix_append _ _))]
  exact congrArg some ((congrArg _ (dotted_intercalate hne hparts)).trans String.ofList_toList)

end Names

section Values

variable {text : String} {n : ℕ} {cs : List Char}

theorem toNat_lt_of_isDigit {c : Char} (h : c.isDigit = true) : c.toNat < 0x80 :=
  (toLower_of_isMark (Bool.or_eq_true_iff.2 (.inr h))).1

theorem splitSign_of_ne (h : ∀ c ∈ cs, c ≠ '-' ∧ c ≠ '+') :
    Decimal.splitSign cs = (false, cs) := by
  unfold Decimal.splitSign
  split
  · simp at h
  · simp at h
  · rfl

/-- Digits have no case. -/
theorem Spells.lowercase_eq (h : Spells text n) : Text.lowercase text = text := by
  have hlower : ∀ c ∈ text.toList, c.toLower = c := fun c hc =>
    Text.forall_ascii (P := fun c => c.isDigit = true → c.toLower = c) (by decide +kernel)
      (toNat_lt_of_isDigit (h.isDigit c hc)) (h.isDigit c hc)
  rw [← String.toList_inj,
    Text.toList_lowercase fun c hc => toNat_lt_of_isDigit (h.isDigit c hc)]
  exact (List.map_congr_left hlower).trans (List.map_id' text.toList)

theorem Spells.ne_of_mem (h : Spells text n) {word : String} {c : Char} (hc : c ∈ word.toList)
    (hdigit : c.isDigit = false) : text ≠ word := by
  rintro rfl
  rw [h.isDigit c hc] at hdigit
  contradiction

theorem Spells.scalarOf_eq (h : Spells text n) (hlt : n < 9223372036854775808) :
    scalarOf text = .integer n := by
  have htrue : text ≠ "true" := h.ne_of_mem (c := 't') (by decide) (by decide)
  have hfalse : text ≠ "false" := h.ne_of_mem (c := 'f') (by decide) (by decide)
  have hsign : Decimal.splitSign text.toList = (false, text.toList) :=
    splitSign_of_ne fun c hc => by
      have hdigit := h.isDigit c hc
      constructor <;> rintro rfl <;> contradiction
  have hsigned : Word.isSigned64 (n : Int) = true := by
    rw [Word.isSigned64, Bool.and_eq_true, decide_eq_true_iff, decide_eq_true_iff, Word.signedLimit]
    omega
  have hint : integer? text.toList = some (n : Int) := by
    simp only [integer?, hsign, h.value_eq]
    exact if_pos ⟨h.ne_nil, List.all_eq_true.2 h.isDigit, hsigned⟩
  unfold scalarOf
  rw [h.lowercase_eq, if_neg htrue, if_neg hfalse, hint]

/-- Letters are ASCII characters, and no part of a number. -/
theorem not_numeric_of_isAlpha {c : Char} (h : c.isAlpha = true) :
    c.toNat < 0x80 ∧ c.isDigit = false ∧ c ≠ '.' ∧ c ≠ '-' ∧ c ≠ '+' := by
  have hascii : c.toNat < 0x80 := by
    obtain h | h := Bool.or_eq_true_iff.1 h
    · exact (toLower_of_isMark (Bool.or_eq_true_iff.2 (.inl h))).1
    · have hle : c.val ≤ 'z'.val := of_decide_eq_true (Bool.and_eq_true_iff.1 h).2
      exact Nat.lt_of_le_of_lt (UInt32.le_iff_toNat_le.1 hle) (by decide)
  refine ⟨hascii, ?_⟩
  exact Text.forall_ascii (P := fun c => c.isAlpha = true →
    c.isDigit = false ∧ c ≠ '.' ∧ c ≠ '-' ∧ c ≠ '+') (by decide +kernel) hascii h

theorem integer?_of_isAlpha (h : ∀ c ∈ cs, c.isAlpha = true) : integer? cs = none := by
  have hsign : Decimal.splitSign cs = (false, cs) :=
    splitSign_of_ne fun c hc => (not_numeric_of_isAlpha (h c hc)).2.2.2
  simp only [integer?, hsign]
  refine if_neg fun hdigits => ?_
  obtain ⟨c, rest, rfl⟩ := List.exists_cons_of_ne_nil hdigits.1
  have hdigit : c.isDigit = true := List.all_eq_true.1 hdigits.2.1 c List.mem_cons_self
  rw [(not_numeric_of_isAlpha (h c List.mem_cons_self)).2.1] at hdigit
  contradiction

/-- A literal without digits has no parts. -/
theorem parts?_of_isAlpha (h : ∀ c ∈ cs, c.isAlpha = true) : Decimal.parts? cs = none := by
  cases cs with
  | nil => rfl
  | cons c rest =>
      obtain ⟨-, hdigit, hdot, -⟩ := not_numeric_of_isAlpha (h c List.mem_cons_self)
      simp [Decimal.parts?, hdigit, hdot]

theorem scalarOf_word (h : ∀ c ∈ text.toList, c.isAlpha = true)
    (hword : Text.lowercase text ∉ reservedWords) : scalarOf text = .text text := by
  simp only [reservedWords, List.mem_cons, List.not_mem_nil, or_false, not_or] at hword
  obtain ⟨htrue, hfalse, hinf, hinfinity, hnan⟩ := hword
  have hlower : String.ofList (text.toList.map Char.toLower) = Text.lowercase text := by
    rw [← Text.toList_lowercase fun c hc => (not_numeric_of_isAlpha (h c hc)).1,
      String.ofList_toList]
  have hsign : Decimal.splitSign text.toList = (false, text.toList) :=
    splitSign_of_ne fun c hc => (not_numeric_of_isAlpha (h c hc)).2.2.2
  have hfloat : Decimal.Binary64.parse? text.toList = none := by
    simp only [Decimal.Binary64.parse?, hsign, hlower, hinf, hinfinity, hnan, or_self, if_false,
      Decimal.unsigned?, parts?_of_isAlpha h, Option.map_none]
  unfold scalarOf
  rw [if_neg htrue, if_neg hfalse, integer?_of_isAlpha h, hfloat]

end Values

end S7Request.Settings
