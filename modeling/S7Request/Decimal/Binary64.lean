/-!
# Binary floating point with 53-bit significands

A value is `significand * 2 ^ exponent` with a sign, an infinity, or not a number. Decimals are
rounded to the nearest value, ties to the even significand, by exact arithmetic on natural
numbers.
-/
namespace S7Request.Decimal

def twoTo (n : Nat) : Nat :=
  Nat.pow 2 n

def tenTo (n : Nat) : Nat :=
  Nat.pow 10 n

/-- A 64-bit floating-point value. A finite one has a significand below `2 ^ 53` and an exponent
of at least `-1074`; the significand is at least `2 ^ 52` unless the exponent is the least one. -/
inductive Binary64
  | nan
  | infinite (negative : Bool)
  | finite (negative : Bool) (significand : Nat) (exponent : Int)
  deriving DecidableEq, Repr

namespace Binary64

/-- The quotient rounded to the nearest integer, a tie to the even one. -/
def roundDiv (num den : Nat) : Nat :=
  let q := num / den
  let r := num % den
  if 2 * r < den then q
  else if den < 2 * r then q + 1
  else if q % 2 = 0 then q else q + 1

/-- The fraction `num / den * 2 ^ (-e)` as numerator and denominator. -/
def scaleDown (num den : Nat) (e : Int) : Nat × Nat :=
  if 0 ≤ e then (num, den * twoTo e.toNat) else (num * twoTo (-e).toNat, den)

/-- The exponent at which the positive fraction `num / den` has a significand of 53 bits, but at
least the least exponent. -/
def exponentOf (num den : Nat) : Int :=
  let e : Int := max (Int.ofNat num.log2 - Int.ofNat den.log2 - 53) (-1074)
  let scaled := scaleDown num den e
  if scaled.1 / scaled.2 < twoTo 53 then e else e + 1

/-- The value nearest to a positive fraction. -/
def ofFraction (negative : Bool) (num den : Nat) : Binary64 :=
  let e := exponentOf num den
  let scaled := scaleDown num den e
  let m := roundDiv scaled.1 scaled.2
  let rounded : Nat × Int := if m = twoTo 53 then (twoTo 52, e + 1) else (m, e)
  if 971 < rounded.2 then infinite negative else finite negative rounded.1 rounded.2

def digitCount (n : Nat) : Nat :=
  (Nat.toDigits 10 n).length

/-- The value nearest to `significand * 10 ^ exponent`. Beyond the range of the format the answer
is known from the number of digits alone. -/
def ofDecimal (negative : Bool) (significand : Nat) (exponent : Int) : Binary64 :=
  let size := Int.ofNat (digitCount significand) + exponent
  if significand = 0 ∨ size < -330 then finite negative 0 (-1074)
  else if 310 < size then infinite negative
  else if 0 ≤ exponent then ofFraction negative (significand * tenTo exponent.toNat) 1
  else ofFraction negative significand (tenTo (-exponent).toNat)

/-- The value nearest to the product of two values. A product with what is not a number, and that
of zero and an infinity, is not a number. -/
def mul : Binary64 → Binary64 → Binary64
  | nan, _ => nan
  | _, nan => nan
  | infinite s, infinite t => infinite (s ^^ t)
  | infinite s, finite t n _ => if n = 0 then nan else infinite (s ^^ t)
  | finite s m _, infinite t => if m = 0 then nan else infinite (s ^^ t)
  | finite s m e, finite t n f =>
      if m * n = 0 then finite (s ^^ t) 0 (-1074)
      else
        let scaled := scaleDown (m * n) 1 (-(e + f))
        ofFraction (s ^^ t) scaled.1 scaled.2

def isInfinite : Binary64 → Bool
  | infinite _ => true
  | _ => false

/-- The nearest 64-bit word: a half is rounded up, a value beyond the range is clamped to it, and
what is not a number counts as zero. -/
def toWord : Binary64 → UInt64
  | nan => 0
  | infinite negative => if negative then 0 else UInt64.ofNat (UInt64.size - 1)
  | finite negative m e =>
      if negative then 0
      else
        let n :=
          if 0 ≤ e then m * twoTo e.toNat
          else (2 * m + twoTo (-e).toNat) / (2 * twoTo (-e).toNat)
        UInt64.ofNat (min n (UInt64.size - 1))

end Binary64

end S7Request.Decimal
