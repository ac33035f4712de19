import S7Request.Decimal.Binary64

/-!
# Shortest decimal digits

A finite value is written with the fewest decimal digits that read back as the same value; among
decimals with that many digits the nearest one is taken, and of two equally near the larger. The
digits are written out in full, without an exponent.
-/
namespace S7Request.Decimal

namespace Binary64

/-- The decimals that read back as a positive value lie between `low / den` and `high / den`, the
value itself is `mid / den`; the bounds belong to it when `closed`. -/
structure Interval where
  low : Nat
  mid : Nat
  high : Nat
  den : Nat
  closed : Bool

/-- The decimals that read back as `significand * 2 ^ exponent`. Below a power of two the
neighbour is only half as far away. -/
def interval (significand : Nat) (exponent : Int) : Interval :=
  let gap := if significand = twoTo 52 ∧ -1074 < exponent then 1 else 2
  let closed := significand % 2 = 0
  let e := exponent - 2
  if 0 ≤ e then
    let unit := twoTo e.toNat
    ⟨(4 * significand - gap) * unit, 4 * significand * unit, (4 * significand + 2) * unit, 1,
      closed⟩
  else
    ⟨4 * significand - gap, 4 * significand, 4 * significand + 2, twoTo (-e).toNat, closed⟩

/-- The decimal `digits * 10 ^ exponent`. -/
structure Digits where
  digits : Nat
  exponent : Int

/-- A decimal over the denominator of the interval, as a numerator and a divisor of it. -/
def Digits.over (d : Digits) (den : Nat) : Nat × Nat :=
  if 0 ≤ d.exponent then (d.digits * tenTo d.exponent.toNat * den, 1)
  else (d.digits * den, tenTo (-d.exponent).toNat)

def Interval.contains (i : Interval) (d : Digits) : Bool :=
  let (n, k) := d.over i.den
  if i.closed then i.low * k ≤ n && n ≤ i.high * k else i.low * k < n && n < i.high * k

/-- The place of the leading digit: the value is at least `10 ^ (place - 1)` and below
`10 ^ place`. -/
def Interval.place (i : Interval) : Int :=
  if i.den ≤ i.mid then Int.ofNat (digitCount (i.mid / i.den))
  else 1 - Int.ofNat (digitCount ((i.den + i.mid - 1) / i.mid - 1))

/-- The decimal of at most `count` digits that reads back as the value, if there is one. -/
def Interval.candidate? (i : Interval) (count : Nat) : Option Digits :=
  let e := i.place - Int.ofNat count
  let (num, den) :=
    if 0 ≤ e then (i.mid, i.den * tenTo e.toNat) else (i.mid * tenTo (-e).toNat, i.den)
  let below : Digits := ⟨num / den, e⟩
  let above : Digits := ⟨num / den + 1, e⟩
  let nearer := if 2 * (num % den) < den then below else above
  let farther := if 2 * (num % den) < den then above else below
  if i.contains nearer then some nearer
  else if i.contains farther then some farther
  else none

/-- The shortest decimal that reads back as a positive value. -/
def shortest (significand : Nat) (exponent : Int) : Digits :=
  let i := interval significand exponent
  ((List.range 17).findSome? fun n => i.candidate? (n + 1)).getD ⟨0, 0⟩

/-- The digits without final zeros, which move into the exponent. -/
def Digits.strip (d : Digits) : Digits :=
  let ds := Nat.toDigits 10 d.digits
  let zeros := (ds.reverse.takeWhile (· = '0')).length
  ⟨d.digits / tenTo zeros, d.exponent + Int.ofNat zeros⟩

/-- A decimal written in full, with a point only if it is not an integer. -/
def Digits.positional (d : Digits) : List Char :=
  let ds := Nat.toDigits 10 d.digits
  if 0 ≤ d.exponent then ds ++ List.replicate d.exponent.toNat '0'
  else
    let places := (-d.exponent).toNat
    if places < ds.length then
      ds.take (ds.length - places) ++ '.' :: ds.drop (ds.length - places)
    else
      ['0', '.'] ++ List.replicate (places - ds.length) '0' ++ ds

/-- The text of a value: its shortest decimal written in full, with a point always. -/
def text : Binary64 → String
  | nan => "NaN"
  | infinite negative => if negative then "-inf" else "inf"
  | finite negative m e =>
      let body := if m = 0 then ['0'] else (shortest m e).strip.positional
      let pointed := if body.contains '.' then body else body ++ ['.', '0']
      String.ofList (if negative then '-' :: pointed else pointed)

end Binary64

end S7Request.Decimal
