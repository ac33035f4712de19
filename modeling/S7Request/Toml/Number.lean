import S7Request.Decimal.Literal
import S7Request.Toml.Basic
import S7Request.Toml.Moment
import S7Request.Toml.Text
import S7Request.Word

/-!
# TOML numbers

Integers are decimal with a sign, or hexadecimal, octal or binary without one, and must fit in a
signed 64-bit word. A decimal number with a fraction or an exponent is rounded to binary floating
point; it must not exceed its range upwards. A single underscore may stand between two digits.
-/
namespace S7Request.Toml

/-- The digits at the front of a text, without the underscores between them. -/
def scanDigits (isDigit : Char → Bool) : List Char → Option (List Char × List Char)
  | [] => none
  | [c] => if isDigit c then some ([c], []) else none
  | c :: d :: rest =>
      if isDigit c then
        if d = '_' then (scanDigits isDigit rest).map (push c)
        else if isDigit d then (scanDigits isDigit (d :: rest)).map (push c)
        else some ([c], d :: rest)
      else none

/-- The whole part of a decimal number: a zero alone, or digits that do not begin with zero. -/
def scanWhole : List Char → Option (List Char × List Char)
  | '0' :: rest => some (['0'], rest)
  | cs => scanDigits Char.isDigit cs

/-- The exponent of a number with its letter and sign, empty where there is none. -/
def scanExponent : List Char → Option (List Char × List Char)
  | c :: rest =>
      if c = 'e' ∨ c = 'E' then
        match rest with
        | '-' :: more => (scanDigits Char.isDigit more).map fun r => ('e' :: '-' :: r.1, r.2)
        | '+' :: more => (scanDigits Char.isDigit more).map fun r => ('e' :: r.1, r.2)
        | more => (scanDigits Char.isDigit more).map fun r => ('e' :: r.1, r.2)
      else some ([], c :: rest)
  | [] => some ([], [])

/-- The fraction of a number with its point, empty where there is none. -/
def scanFraction : List Char → Option (List Char × List Char)
  | '.' :: rest => (scanDigits Char.isDigit rest).map (push '.')
  | cs => some ([], cs)

def word? (n : Int) : Option Value :=
  if Word.isSigned64 n then some (.integer n) else none

/-- The integer of digits in a base, all of the text after the base's mark. -/
def based? (base : Nat) (cs : List Char) : Option Value := do
  let isDigit := fun c => match hexDigit? c with
    | some n => n < base
    | none => false
  let (ds, rest) ← scanDigits isDigit cs
  if rest = [] then
    word? (Int.ofNat (ds.foldl (fun n d => n * base + (hexDigit? d).getD 0) 0))
  else none

/-- The decimal number that is all of a text without sign. -/
def decimal? (negative : Bool) (cs : List Char) : Option Value := do
  let (whole, rest) ← scanWhole cs
  let (fraction, rest) ← scanFraction rest
  let (exponent, rest) ← scanExponent rest
  if rest ≠ [] then none
  else if fraction = [] ∧ exponent = [] then
    let n := Int.ofNat (Decimal.digitsValue whole)
    word? (if negative then -n else n)
  else
    let value ← Decimal.unsigned? negative (whole ++ fraction ++ exponent)
    if value = .infinite false then none else some (.float value)

def number? (cs : List Char) : Option Value :=
  match cs with
  | '0' :: 'x' :: rest => based? 16 rest
  | '0' :: 'o' :: rest => based? 8 rest
  | '0' :: 'b' :: rest => based? 2 rest
  | _ =>
      let (negative, body) := Decimal.splitSign cs
      if body = ['i', 'n', 'f'] then some (.float (.infinite negative))
      else if body = ['n', 'a', 'n'] then some (.float .nan)
      else decimal? negative body

/-- A character of a number, a date or a time. -/
def isNumberChar (c : Char) : Bool :=
  c.isAlphanum || c = '_' || c = '-' || c = '+' || c = '.' || c = ':'

/-- The number, date or time at the front of a text. A date may be joined to a time by a blank. -/
def scanNumber (cs : List Char) : Option (Value × List Char) :=
  let run := cs.takeWhile isNumberChar
  let rest := cs.dropWhile isNumberChar
  match scanDate run, rest with
  | some (_, []), ' ' :: d :: more =>
      if d.isDigit then
        (moment? (run ++ ' ' :: (d :: more).takeWhile isNumberChar)).map fun text =>
          (.moment (.ofList text), (d :: more).dropWhile isNumberChar)
      else (moment? run).map fun text => (.moment (.ofList text), rest)
  | _, _ =>
      match moment? run with
      | some text => some (.moment (.ofList text), rest)
      | none => (number? run).map (·, rest)

end S7Request.Toml
