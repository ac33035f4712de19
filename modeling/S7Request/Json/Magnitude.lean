import S7Request.Decimal.Literal
import S7Request.Json.Basic

/-!
# The magnitude of JSON numbers

A number that is held in memory is approximated. As many of its first digits as a 64-bit word can
hold are its significand; each of the whole digits left out counts as a factor of ten. The
approximation is the product of the significand and the power of ten, each rounded to binary
floating point before they are multiplied and the product rounded once more. A number whose
approximation exceeds the range of floating point cannot be held.
-/
namespace S7Request.Json

/-- The word spelled by digits behind those of a first word, as far as it fits in 64 bits, and the
digits that are left. -/
def fillWord : Nat → List Char → Nat × List Char
  | word, [] => (word, [])
  | word, d :: ds =>
      let longer := word * 10 + Decimal.digitsValue [d]
      if longer < UInt64.size then fillWord longer ds else (word, d :: ds)

/-- The significand of a decimal number and its exponent of ten. Where the whole digits do not fit
in the word, the fraction is read on behind those that do. -/
def approximation (p : Decimal.Parts) : Nat × Int :=
  let (whole, left) := fillWord 0 p.whole
  let (significand, unread) := fillWord whole p.fraction
  (significand, p.exponent + Int.ofNat left.length -
    Int.ofNat (p.fraction.length - unread.length))

/-- The largest power of ten in binary floating point. -/
def maxExponent : Int := 308

/-- Whether a decimal number is within the range of binary floating point. Division by a power of
ten cannot leave it. -/
def inRange (p : Decimal.Parts) : Bool :=
  let (significand, exponent) := approximation p
  significand = 0 || exponent < 0 ||
    (exponent ≤ maxExponent &&
      !((Decimal.Binary64.ofDecimal false significand 0).mul
          (Decimal.Binary64.ofDecimal false 1 exponent)).isInfinite)

/-- Whether a number can be held in memory. -/
def Number.isFinite : Number → Bool
  | .integer n => inRange ⟨Nat.toDigits 10 n.natAbs, [], 0⟩
  | .decimal literal =>
      match Decimal.parts? (Decimal.splitSign literal).2 with
      | some p => inRange p
      | none => false

end S7Request.Json
