import S7Request.Decimal.Binary64

/-!
# Reading floating-point literals

A literal is an optional sign and then `inf`, `infinity` or `nan` in any case, or digits with an
optional point among or around them and an optional exponent. At least one digit stands before
the exponent.
-/
namespace S7Request.Decimal

/-- A sign in front of a text, and the text after it. -/
def splitSign : List Char → Bool × List Char
  | '-' :: rest => (true, rest)
  | '+' :: rest => (false, rest)
  | cs => (false, cs)

def digitsValue (ds : List Char) : Nat :=
  Nat.ofDigitChars 10 ds 0

/-- An exponent part, from the letter on; an empty text is the exponent zero. -/
def exponent? : List Char → Option Int
  | [] => some 0
  | c :: rest =>
      if c = 'e' ∨ c = 'E' then
        let (negative, ds) := splitSign rest
        if ds ≠ [] ∧ ds.all Char.isDigit then
          some (if negative then -Int.ofNat (digitsValue ds) else Int.ofNat (digitsValue ds))
        else none
      else none

/-- A decimal number in parts: the digits before and behind its point, and its exponent. -/
structure Parts where
  whole : List Char
  fraction : List Char
  exponent : Int
  deriving DecidableEq, Repr

/-- The parts of a literal without sign. -/
def parts? (cs : List Char) : Option Parts :=
  let whole := cs.takeWhile Char.isDigit
  let rest := cs.dropWhile Char.isDigit
  let (fraction, tail) :=
    match rest with
    | '.' :: more => (more.takeWhile Char.isDigit, more.dropWhile Char.isDigit)
    | _ => ([], rest)
  if whole = [] ∧ fraction = [] then none
  else (exponent? tail).map fun exponent => ⟨whole, fraction, exponent⟩

/-- The value of a literal without sign, made negative on request. -/
def unsigned? (negative : Bool) (cs : List Char) : Option Binary64 :=
  (parts? cs).map fun p =>
    Binary64.ofDecimal negative (digitsValue (p.whole ++ p.fraction))
      (p.exponent - Int.ofNat p.fraction.length)

def Binary64.parse? (cs : List Char) : Option Binary64 :=
  let (negative, body) := splitSign cs
  let word := String.ofList (body.map Char.toLower)
  if word = "inf" ∨ word = "infinity" then some (.infinite negative)
  else if word = "nan" then some .nan
  else unsigned? negative body

end S7Request.Decimal
