import S7Request.Json.Printer
import Mathlib.Data.List.Basic

/-!
# The text of a token

The scanner takes the text of a token off the front of any text that does not continue it. Only a
number can be continued, by a digit, a point or the letter of an exponent. So the scanner finds the
tokens of a value in its text, and behind them the tokens of what follows.
-/
namespace S7Request.Json

variable {cs rest ds whole fraction exponent : List Char}

structure IsNumeral (ds : List Char) : Prop where
  ne_nil : ds ≠ []
  isDigit : ∀ c ∈ ds, c.isDigit = true

/-- The whole part of a number: a zero stands alone only. -/
structure IsWhole (ds : List Char) : Prop extends IsNumeral ds where
  zero_alone : ds.head? = some '0' → ds = ['0']

inductive IsFraction : List Char → Prop
  | absent : IsFraction []
  | point {ds : List Char} : IsNumeral ds → IsFraction ('.' :: ds)

inductive IsExponent : List Char → Prop
  | absent : IsExponent []
  | unsigned {letter : Char} {ds : List Char} : letter = 'e' ∨ letter = 'E' → IsNumeral ds →
      IsExponent (letter :: ds)
  | signed {letter sign : Char} {ds : List Char} : letter = 'e' ∨ letter = 'E' →
      sign = '+' ∨ sign = '-' → IsNumeral ds → IsExponent (letter :: sign :: ds)

/-- A number that has a text: an integer, or a literal that is not the one of an integer. -/
inductive Number.IsSpelt : Number → Prop
  | integer (n : Int) : IsSpelt (.integer n)
  | decimal {negative : Bool} {whole fraction exponent : List Char} : IsWhole whole →
      IsFraction fraction → IsExponent exponent →
      fraction ++ exponent ≠ [] ∨ (negative ∧ whole = ['0']) →
      IsSpelt (.decimal ((if negative then ['-'] else []) ++ whole ++ (fraction ++ exponent)))

/-- A text that does not continue a number. -/
def EndsNumber (rest : List Char) : Prop :=
  ∀ c ∈ rest.head?, c.isDigit = false ∧ c ≠ '.' ∧ c ≠ 'e' ∧ c ≠ 'E'

section Number

theorem scanDigits_append (hds : IsNumeral ds) (hrest : ∀ c ∈ rest.head?, c.isDigit = false) :
    scanDigits (ds ++ rest) = some (ds, rest) := by
  have htake : rest.takeWhile Char.isDigit = [] := by
    cases rest with
    | nil => rfl
    | cons c rest => simp [hrest c rfl]
  have hdrop : rest.dropWhile Char.isDigit = rest := by
    cases rest with
    | nil => rfl
    | cons c rest => simp [hrest c rfl]
  rw [scanDigits, List.takeWhile_append_of_pos hds.isDigit,
    List.dropWhile_append_of_pos hds.isDigit, htake, hdrop, List.append_nil]
  exact if_neg hds.ne_nil

theorem scanWhole_append (h : IsWhole whole) (hrest : ∀ c ∈ rest.head?, c.isDigit = false) :
    scanWhole (whole ++ rest) = some (whole, rest) := by
  by_cases hzero : whole.head? = some '0'
  · rw [h.zero_alone hzero]
    rfl
  · have hdigits := scanDigits_append h.toIsNumeral hrest
    cases whole with
    | nil => exact absurd rfl h.ne_nil
    | cons d ds =>
        have hd : d ≠ '0' := fun e => hzero (congrArg some e)
        rw [← hdigits, List.cons_append, scanWhole]
        simpa using hd

theorem scanFraction_append (h : IsFraction fraction)
    (hrest : ∀ c ∈ rest.head?, c.isDigit = false ∧ c ≠ '.') :
    scanFraction (fraction ++ rest) = some (fraction, rest) := by
  cases h with
  | absent =>
      cases rest with
      | nil => rfl
      | cons c rest =>
          have hc : c ≠ '.' := (hrest c rfl).2
          rw [List.nil_append, scanFraction]
          simpa using hc
  | point hds =>
      rw [List.cons_append, scanFraction, scanDigits_append hds fun c hc => (hrest c hc).1]
      rfl

theorem scanExponent_append (h : IsExponent exponent) (hrest : EndsNumber rest) :
    scanExponent (exponent ++ rest) = some (exponent, rest) := by
  have hdigits : ∀ {ds}, IsNumeral ds → scanDigits (ds ++ rest) = some (ds, rest) :=
    fun hds => scanDigits_append hds fun c hc => (hrest c hc).1
  cases h with
  | absent =>
      match rest with
      | [] => rfl
      | [c] => simp [scanExponent, (hrest c rfl).2.2]
      | c :: d :: rest => simp [scanExponent, (hrest c rfl).2.2]
  | @unsigned letter ds hletter hds =>
      obtain ⟨d, ds, rfl⟩ := List.exists_cons_of_ne_nil hds.ne_nil
      have hdigit : d.isDigit = true := hds.isDigit d (by simp)
      have hd : ¬(d = '+' ∨ d = '-') := by rintro (rfl | rfl) <;> contradiction
      rw [List.cons_append, List.cons_append, scanExponent, if_pos hletter, if_neg hd,
        ← List.cons_append, hdigits hds]
      rfl
  | @signed letter sign ds hletter hsign hds =>
      rw [List.cons_append, List.cons_append, scanExponent, if_pos hletter, if_pos hsign,
        hdigits hds]
      rfl

/-- The parts of a number are taken one by one, since none of them begins with a character that
continues the one before it. -/
theorem scanNumber_append (negative : Bool) (hwhole : IsWhole whole)
    (hfraction : IsFraction fraction) (hexponent : IsExponent exponent) (hrest : EndsNumber rest) :
    scanNumber negative (whole ++ (fraction ++ (exponent ++ rest))) =
      some (.number (numberOf negative whole (fraction ++ exponent)), rest) := by
  have hbehindFraction : ∀ c ∈ (exponent ++ rest).head?, c.isDigit = false ∧ c ≠ '.' := by
    cases hexponent with
    | absent => exact fun c hc => ⟨(hrest c hc).1, (hrest c hc).2.1⟩
    | unsigned hletter | signed hletter => obtain rfl | rfl := hletter <;> simp
  have hbehindWhole : ∀ c ∈ (fraction ++ (exponent ++ rest)).head?, c.isDigit = false := by
    cases hfraction with
    | absent => exact fun c hc => (hbehindFraction c hc).1
    | point => simp
  rw [scanNumber, scanWhole_append hwhole hbehindWhole]
  simp only [Option.bind_eq_bind, Option.bind_some, scanFraction_append hfraction hbehindFraction,
    scanExponent_append hexponent hrest]
  rfl

theorem isWhole_toDigits (n : Nat) : IsWhole (Nat.toDigits 10 n) := by
  refine ⟨⟨Nat.toDigits_ne_nil, fun c => Nat.isDigit_of_mem_toDigits (by decide) (by decide)⟩, ?_⟩
  intro hzero
  induction n using Nat.strongRecOn with
  | ind n ih =>
      by_cases hn : n < 10
      · rw [Nat.toDigits_of_lt_base hn] at hzero ⊢
        rw [Option.some.inj hzero]
      · have hquotient : n / 10 < n := by omega
        have hne : Nat.toDigits 10 (n / 10) ≠ [] := Nat.toDigits_ne_nil
        rw [Nat.toDigits_of_base_le (by decide) (by omega),
          List.head?_append_of_ne_nil _ hne] at hzero
        have hpositive : 0 < n / 10 := by omega
        have hvalue := congrArg (Nat.ofDigitChars 10 · 0) (ih _ hquotient hzero)
        simp only [Nat.ofDigitChars_ten_toDigits] at hvalue
        change n / 10 = 0 at hvalue
        omega

theorem numberOf_toDigits (n : Nat) :
    numberOf false (Nat.toDigits 10 n) [] = .integer (.ofNat n) := by
  simp [numberOf, Nat.ofDigitChars_ten_toDigits]

theorem numberOf_toDigits_succ (n : Nat) :
    numberOf true (Nat.toDigits 10 (n + 1)) [] = .integer (.negSucc n) := by
  have hvalue : Nat.ofDigitChars 10 (Nat.toDigits 10 (n + 1)) 0 = n + 1 :=
    Nat.ofDigitChars_ten_toDigits
  have hne : Nat.toDigits 10 (n + 1) ≠ ['0'] := by
    intro hzero
    rw [hzero] at hvalue
    contradiction
  simp [numberOf, hne, hvalue, Int.negSucc_eq]

theorem numberOf_literal {negative : Bool}
    (h : fraction ++ exponent ≠ [] ∨ (negative ∧ whole = ['0'])) :
    numberOf negative whole (fraction ++ exponent) =
      .decimal ((if negative then ['-'] else []) ++ whole ++ (fraction ++ exponent)) := by
  rw [numberOf, if_neg]
  rintro ⟨htail, hzero⟩
  exact h.elim (· htail) hzero

/-- A text that begins with a digit begins with a number. -/
theorem scanToken_of_isDigit {d : Char} (hd : d.isDigit = true) :
    scanToken (d :: cs) = scanNumber false (d :: cs) := by
  unfold scanToken
  split
  all_goals first | rfl | simp_all

theorem scanToken_whole (hwhole : IsWhole whole) (hfraction : IsFraction fraction)
    (hexponent : IsExponent exponent) (hrest : EndsNumber rest) (negative : Bool) :
    scanToken ((if negative then ['-'] else []) ++ whole ++ (fraction ++ exponent) ++ rest) =
      some (.number (numberOf negative whole (fraction ++ exponent)), rest) := by
  rw [← scanNumber_append negative hwhole hfraction hexponent hrest]
  cases negative with
  | true => simp [scanToken]
  | false =>
      obtain ⟨d, ds, rfl⟩ := List.exists_cons_of_ne_nil hwhole.ne_nil
      have hd : d.isDigit = true := hwhole.isDigit d (by simp)
      simp [scanToken_of_isDigit hd]

end Number

section String

theorem hexWord?_digitChar : ∀ n < 0x20,
    hexWord? '0' '0' (Nat.digitChar (n / 16)) (Nat.digitChar (n % 16)) = some n := by
  decide

theorem scanUnits_writeChar (c : Char) (cs : List Char) :
    scanUnits (writeChar c ++ cs) =
      (scanUnits cs).map fun (units, rest) => (c.toNat :: units, rest) := by
  unfold writeChar
  split
  · subst c
    cases hcs : scanUnits cs <;> simp [scanUnits, shortEscape?, hcs]
  split
  · subst c
    cases hcs : scanUnits cs <;> simp [scanUnits, shortEscape?, hcs]
  split
  · rename_i hcontrol
    have hword := hexWord?_digitChar c.toNat hcontrol
    cases hcs : scanUnits cs <;> simp [scanUnits, hword, hcs]
  · rename_i hbackslash hcontrol
    cases hcs : scanUnits cs <;> simp [scanUnits, hbackslash, hcontrol, hcs]

theorem scanUnits_quoted (cs rest : List Char) :
    scanUnits (cs.flatMap writeChar ++ '"' :: rest) = some (cs.map Char.toNat, rest) := by
  induction cs with
  | nil => rfl
  | cons c cs ih =>
      rw [List.flatMap_cons, List.append_assoc, scanUnits_writeChar, ih]
      rfl

/-- The number of a character is not that of a surrogate. -/
theorem not_isSurrogate (c : Char) :
    isHighSurrogate c.toNat = false ∧ isLowSurrogate c.toNat = false := by
  have hvalid : c.toNat.isValidChar := c.valid
  simp only [Nat.isValidChar] at hvalid
  simp only [isHighSurrogate, isLowSurrogate, Bool.and_eq_false_iff, decide_eq_false_iff_not]
  omega

theorem joinUnits_map_toNat (cs : List Char) : joinUnits (cs.map Char.toNat) = some cs := by
  induction cs with
  | nil => rfl
  | cons c cs ih =>
      obtain ⟨hhigh, hlow⟩ := not_isSurrogate c
      rw [List.map_cons, joinUnits.eq_def]
      simp [hhigh, hlow, ih, Char.ofNat_toNat]

theorem scanString_quoted (s : String) (rest : List Char) :
    scanString (s.toList.flatMap writeChar ++ '"' :: rest) = some (.string (some s), rest) := by
  simp [scanString, scanUnits_quoted, joinUnits_map_toNat]

end String

namespace Token

def IsSpelt : Token → Prop
  | number n => n.IsSpelt
  | _ => True

/-- A text that does not continue a token. -/
def EndsBefore : Token → List Char → Prop
  | number _, rest => EndsNumber rest
  | _, _ => True

variable {t : Token} {ts : List Token}

theorem scanToken_text (ht : t.IsSpelt) (hrest : t.EndsBefore rest) :
    scanToken (t.text ++ rest) = some (t, rest) := by
  cases t with
  | openArray | closeArray | openObject | closeObject | comma | colon | null => rfl
  | boolean value => cases value <;> rfl
  | number n =>
      cases ht with
      | integer n =>
          cases n with
          | ofNat n =>
              have h := scanToken_whole (isWhole_toDigits n) .absent .absent hrest false
              simp only [List.append_nil, numberOf_toDigits] at h
              simpa [text] using h
          | negSucc n =>
              have h := scanToken_whole (isWhole_toDigits (n + 1)) .absent .absent hrest true
              simp only [List.append_nil, numberOf_toDigits_succ] at h
              simpa [text] using h
      | @decimal negative _ _ _ hwhole hfraction hexponent hliteral =>
          rw [text, scanToken_whole hwhole hfraction hexponent hrest negative,
            numberOf_literal hliteral]
  | string s =>
      cases s with
      | none => rfl
      | some s =>
          simp only [text, List.cons_append, List.append_assoc]
          exact scanString_quoted s rest

theorem isBlank_of_isDigit {c : Char} (h : c.isDigit = true) : isBlank c = false := by
  simp only [isBlank, Bool.or_eq_false_iff, decide_eq_false_iff_not]
  refine ⟨⟨⟨?_, ?_⟩, ?_⟩, ?_⟩
  all_goals
    rintro rfl
    contradiction

/-- The text of a token does not begin with a blank. -/
theorem exists_text_eq_cons (ht : t.IsSpelt) : ∃ c cs, t.text = c :: cs ∧ isBlank c = false := by
  have hwhole : ∀ {whole}, IsWhole whole → ∃ c cs, whole = c :: cs ∧ isBlank c = false := by
    intro whole h
    obtain ⟨d, ds, rfl⟩ := List.exists_cons_of_ne_nil h.ne_nil
    exact ⟨d, ds, rfl, isBlank_of_isDigit (h.isDigit d (by simp))⟩
  cases t with
  | openArray | closeArray | openObject | closeObject | comma | colon | null =>
      exact ⟨_, _, rfl, by decide⟩
  | boolean value => cases value <;> exact ⟨_, _, rfl, by decide⟩
  | string s => cases s <;> exact ⟨_, _, rfl, by decide⟩
  | number n =>
      cases ht with
      | integer n =>
          cases n with
          | ofNat n => exact hwhole (isWhole_toDigits n)
          | negSucc n => exact ⟨_, _, rfl, by decide⟩
      | @decimal negative _ _ _ h _ _ _ =>
          cases negative with
          | true => exact ⟨_, _, rfl, by decide⟩
          | false =>
              obtain ⟨d, ds, rfl, hd⟩ := hwhole h
              exact ⟨d, _, rfl, hd⟩

end Token

section Scan

variable {t : Token} {ts : List Token} {m n : Nat}

/-- More steps than enough find the same tokens. -/
theorem scanSteps_mono (hnm : n ≤ m) (h : scanSteps n cs = some ts) :
    scanSteps m cs = some ts := by
  induction n generalizing m cs ts with
  | zero =>
      cases cs with
      | nil => simpa [scanSteps] using h
      | cons c cs => simp [scanSteps] at h
  | succ n ih =>
      obtain ⟨m, rfl⟩ : ∃ k, m = k + 1 := ⟨m - 1, by omega⟩
      cases cs with
      | nil => simpa [scanSteps] using h
      | cons c cs =>
          rw [scanSteps] at h ⊢
          split at h
          · rename_i hblank
            rw [if_pos hblank]
            exact ih (by omega) h
          · rename_i hblank
            rw [if_neg hblank]
            simp only [Option.bind_eq_bind, Option.bind_eq_some_iff] at h ⊢
            obtain ⟨⟨t, rest⟩, htoken, ts', hrest, hts⟩ := h
            exact ⟨(t, rest), htoken, ts', ih (by omega) hrest, hts⟩

theorem scan_text_append (ht : t.IsSpelt) (hrest : t.EndsBefore rest) (h : scan rest = some ts) :
    scan (t.text ++ rest) = some (t :: ts) := by
  have htoken := Token.scanToken_text ht hrest
  obtain ⟨c, cs, htext, hblank⟩ := Token.exists_text_eq_cons ht
  rw [htext, List.cons_append] at htoken ⊢
  have hmore : scanSteps (cs ++ rest).length rest = some ts := scanSteps_mono (by simp) h
  rw [scan, List.length_cons, scanSteps, if_neg (by simp [hblank]), htoken]
  simp only [Option.bind_eq_bind, Option.bind_some, hmore]
  rfl

end Scan

end S7Request.Json
