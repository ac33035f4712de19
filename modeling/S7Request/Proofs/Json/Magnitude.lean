import S7Request.Json.Magnitude
import Mathlib.Algebra.Order.Ring.Nat
import Mathlib.Tactic.SplitIfs

/-!
# Words in memory

A 64-bit word is far below the largest value in binary floating point, so it can be held in memory:
its digits all fit in the significand, the power of ten is one, and rounding moves the binary
exponent by two at most.
-/
namespace S7Request.Decimal.Binary64

variable {num den k : ℕ}

theorem exponentOf_le (hnum : num.log2 ≤ k) : exponentOf num den ≤ k - 52 := by
  simp only [exponentOf, Int.ofNat_eq_natCast]
  split <;> omega

theorem le_exponentOf_one (num : ℕ) : -53 ≤ exponentOf num 1 := by
  have hone : Nat.log2 1 = 0 := by decide
  simp only [exponentOf, Int.ofNat_eq_natCast, hone]
  split <;> omega

theorem roundDiv_le (num den : ℕ) : roundDiv num den ≤ num + 1 := by
  have hquotient : num / den ≤ num := Nat.div_le_self num den
  simp only [roundDiv]
  split_ifs <;> omega

/-- A fraction with a moderate numerator is rounded to a finite value. -/
theorem exists_ofFraction_eq (negative : Bool) (den : ℕ) (hnum : num.log2 ≤ k) (hk : k ≤ 1000) :
    ∃ m e, ofFraction negative num den = finite negative m e ∧ e ≤ k - 51 ∧
      m ≤ (scaleDown num den (exponentOf num den)).1 + twoTo 52 := by
  have he : exponentOf num den ≤ k - 52 := exponentOf_le hnum
  have hone : 1 ≤ twoTo 52 := by decide
  have hround := roundDiv_le (scaleDown num den (exponentOf num den)).1
    (scaleDown num den (exponentOf num den)).2
  by_cases hfull : roundDiv (scaleDown num den (exponentOf num den)).1
      (scaleDown num den (exponentOf num den)).2 = twoTo 53
  · refine ⟨twoTo 52, exponentOf num den + 1, ?_, by omega, by omega⟩
    simp only [ofFraction, if_pos hfull]
    exact if_neg (by omega)
  · refine ⟨roundDiv (scaleDown num den (exponentOf num den)).1
      (scaleDown num den (exponentOf num den)).2, exponentOf num den, ?_, by omega, by omega⟩
    simp only [ofFraction, if_neg hfull]
    exact if_neg (by omega)

theorem scaleDown_one_le (n : ℕ) : (scaleDown n 1 (exponentOf n 1)).1 ≤ n * twoTo 53 := by
  have hexponent := le_exponentOf_one n
  rw [scaleDown]
  split
  · exact Nat.le_mul_of_pos_right n (by decide)
  · have hpower : twoTo (-exponentOf n 1).toNat ≤ twoTo 53 :=
      Nat.pow_le_pow_right (by decide) (by omega)
    exact Nat.mul_le_mul_left n hpower

/-- The significand of a word and its binary exponent are moderate. -/
theorem exists_ofDecimal_eq {n : ℕ} (hn : n < UInt64.size) :
    ∃ m e, ofDecimal false n 0 = finite false m e ∧ e ≤ 13 ∧ m < twoTo 118 := by
  by_cases hzero : n = 0
  · exact ⟨0, -1074, by simp [ofDecimal, hzero], by decide, by decide⟩
  · have hlog : n.log2 ≤ 64 := Nat.le_of_lt ((Nat.log2_lt hzero).2 hn)
    have hdigits : digitCount n ≤ 20 :=
      (Nat.length_toDigits_le_iff (by decide) (by decide)).2 (hn.trans (by decide))
    have hten : n * tenTo 0 = n := Nat.mul_one n
    obtain ⟨m, e, hfinite, he, hm⟩ := exists_ofFraction_eq false 1 hlog (by decide)
    refine ⟨m, e, ?_, he, ?_⟩
    · simp only [ofDecimal, hzero, false_or, Int.ofNat_eq_natCast]
      rw [if_neg (by omega), if_neg (by omega), if_pos (by omega), Int.toNat_zero, hten, hfinite]
    · calc
        m ≤ n * twoTo 53 + twoTo 52 := hm.trans (Nat.add_le_add_right (scaleDown_one_le n) _)
        _ ≤ UInt64.size * twoTo 53 + twoTo 52 :=
          Nat.add_le_add_right (Nat.mul_le_mul_right _ hn.le) _
        _ < twoTo 118 := by decide

theorem ofDecimal_one : ofDecimal false 1 0 = finite false (twoTo 52) (-52) := by decide +kernel

/-- The product of a word and one is finite. -/
theorem isInfinite_mul_one {n : ℕ} (hn : n < UInt64.size) :
    ((ofDecimal false n 0).mul (ofDecimal false 1 0)).isInfinite = false := by
  obtain ⟨m, e, hword, he, hm⟩ := exists_ofDecimal_eq hn
  rw [hword, ofDecimal_one]
  simp only [mul]
  split
  · rfl
  · rename_i hproduct
    have hshift : 0 ≤ -(e + -52) := by omega
    have hlt : m * twoTo 52 < 2 ^ 170 :=
      (Nat.mul_lt_mul_of_pos_right hm (by decide)).trans_le (by decide)
    have hlog : (m * twoTo 52).log2 ≤ 170 := Nat.le_of_lt ((Nat.log2_lt hproduct).2 hlt)
    rw [scaleDown, if_pos hshift]
    obtain ⟨m', e', hfinite, -, -⟩ := exists_ofFraction_eq (false ^^ false)
      (1 * twoTo (-(e + -52)).toNat) hlog (by decide)
    rw [hfinite]
    rfl

end S7Request.Decimal.Binary64

namespace S7Request.Json

/-- The digits of a word all fit in the significand. -/
theorem fillWord_of_lt {word : ℕ} {ds : List Char} (h : Nat.ofDigitChars 10 ds word < UInt64.size) :
    fillWord word ds = (Nat.ofDigitChars 10 ds word, []) := by
  induction ds generalizing word with
  | nil => rfl
  | cons d ds ih =>
      have hlonger : word * 10 + Decimal.digitsValue [d] =
          10 * word + (d.toNat - '0'.toNat) := by
        rw [Decimal.digitsValue, Nat.ofDigitChars_cons, Nat.mul_comm]
        simp
      rw [Nat.ofDigitChars_cons] at h ⊢
      have hle : 10 * word + (d.toNat - '0'.toNat) ≤
          Nat.ofDigitChars 10 ds (10 * word + (d.toNat - '0'.toNat)) := by
        rw [Nat.ofDigitChars_eq_ofDigitChars_zero]
        exact (Nat.le_mul_of_pos_left _ (Nat.pow_pos (by decide))).trans (Nat.le_add_right _ _)
      simp only [fillWord, hlonger]
      rw [if_pos (hle.trans_lt h), ih h]

/-- A number of 64 bits can be held in memory. -/
theorem isFinite_of_lt {n : ℕ} (hn : n < UInt64.size) :
    Number.isFinite (.integer (.ofNat n)) = true := by
  have hvalue : Nat.ofDigitChars 10 (Nat.toDigits 10 n) 0 = n :=
    Nat.ofDigitChars_ten_toDigits
  have hword : fillWord 0 (Nat.toDigits 10 n) = (n, []) := by
    rw [fillWord_of_lt (by rwa [hvalue]), hvalue]
  have hsize : approximation ⟨Nat.toDigits 10 n, [], 0⟩ = (n, 0) := by
    simp [approximation, hword, fillWord]
  change inRange ⟨Nat.toDigits 10 n, [], 0⟩ = true
  simp only [inRange, hsize, Decimal.Binary64.isInfinite_mul_one hn]
  simp [maxExponent]

end S7Request.Json
