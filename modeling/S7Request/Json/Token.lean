import S7Request.Json.Basic

/-!
# JSON tokens

A JSON text is cut into punctuation, literals, numbers and strings, with the blanks between them
left out. Two literals side by side are two tokens; that no value looks like this is left to the
grammar of values.
-/
namespace S7Request.Json

inductive Token
  | openArray
  | closeArray
  | openObject
  | closeObject
  | comma
  | colon
  | null
  | boolean (value : Bool)
  | number (value : Number)
  | string (value : Option String)
  deriving DecidableEq, Repr

/-- A character that may stand between tokens. -/
def isBlank (c : Char) : Bool :=
  c = ' ' || c = '\t' || c = '\n' || c = '\r'

def hexDigit? (c : Char) : Option Nat :=
  if c.isDigit then some (c.toNat - 48)
  else if 'a' ≤ c ∧ c ≤ 'f' then some (c.toNat - 87)
  else if 'A' ≤ c ∧ c ≤ 'F' then some (c.toNat - 55)
  else none

/-- The number spelled by four hexadecimal digits. -/
def hexWord? (a b c d : Char) : Option Nat := do
  let a ← hexDigit? a
  let b ← hexDigit? b
  let c ← hexDigit? c
  let d ← hexDigit? d
  pure (((a * 16 + b) * 16 + c) * 16 + d)

/-- The character of an escape with one letter. -/
def shortEscape? (c : Char) : Option Char :=
  if c = '"' ∨ c = '\\' ∨ c = '/' then some c
  else if c = 'b' then some '\x08'
  else if c = 'f' then some '\x0c'
  else if c = 'n' then some '\n'
  else if c = 'r' then some '\r'
  else if c = 't' then some '\t'
  else none

/-- The code units of a string from behind its opening quote, and the text behind its closing
one. A numeric escape counts as the unit it spells, every other character as its number. -/
def scanUnits : List Char → Option (List Nat × List Char)
  | [] => none
  | '"' :: rest => some ([], rest)
  | '\\' :: 'u' :: a :: b :: c :: d :: rest => do
      let unit ← hexWord? a b c d
      let (units, rest) ← scanUnits rest
      pure (unit :: units, rest)
  | '\\' :: c :: rest => do
      let unit ← shortEscape? c
      let (units, rest) ← scanUnits rest
      pure (unit.toNat :: units, rest)
  | c :: rest =>
      if c.toNat < 0x20 then none
      else do
        let (units, rest) ← scanUnits rest
        pure (c.toNat :: units, rest)

def isHighSurrogate (n : Nat) : Bool :=
  0xd800 ≤ n && n < 0xdc00

def isLowSurrogate (n : Nat) : Bool :=
  0xdc00 ≤ n && n < 0xe000

/-- The characters of code units; a pair of surrogates is one character, half of one is none. -/
def joinUnits : List Nat → Option (List Char)
  | [] => some []
  | high :: rest =>
      if isHighSurrogate high then
        match rest with
        | low :: rest =>
            if isLowSurrogate low then
              (joinUnits rest).map
                (Char.ofNat (0x10000 + (high - 0xd800) * 0x400 + (low - 0xdc00)) :: ·)
            else none
        | [] => none
      else if isLowSurrogate high then none
      else (joinUnits rest).map (Char.ofNat high :: ·)

/-- The string token behind an opening quote. -/
def scanString (cs : List Char) : Option (Token × List Char) :=
  (scanUnits cs).map fun (units, rest) => (.string ((joinUnits units).map String.ofList), rest)

/-- The digits at the front of a text, at least one, and the text behind them. -/
def scanDigits (cs : List Char) : Option (List Char × List Char) :=
  let ds := cs.takeWhile Char.isDigit
  if ds = [] then none else some (ds, cs.dropWhile Char.isDigit)

/-- The whole part of a number: a zero alone, or digits that do not begin with zero. -/
def scanWhole : List Char → Option (List Char × List Char)
  | '0' :: rest => some (['0'], rest)
  | cs => scanDigits cs

/-- The fraction of a number with its point, empty where there is none. -/
def scanFraction : List Char → Option (List Char × List Char)
  | '.' :: rest => (scanDigits rest).map fun (ds, rest) => ('.' :: ds, rest)
  | cs => some ([], cs)

/-- The exponent of a number with its letter and sign, empty where there is none. -/
def scanExponent : List Char → Option (List Char × List Char)
  | c :: sign :: rest =>
      if c = 'e' ∨ c = 'E' then
        if sign = '+' ∨ sign = '-' then
          (scanDigits rest).map fun (ds, rest) => (c :: sign :: ds, rest)
        else
          (scanDigits (sign :: rest)).map fun (ds, rest) => (c :: ds, rest)
      else some ([], c :: sign :: rest)
  | [c] => if c = 'e' ∨ c = 'E' then none else some ([], [c])
  | [] => some ([], [])

/-- The number of a literal from its parts. Only a literal of digits is an integer, and a negative
zero is not. -/
def numberOf (negative : Bool) (whole tail : List Char) : Number :=
  if tail = [] ∧ ¬(negative ∧ whole = ['0']) then
    let n := Int.ofNat (Nat.ofDigitChars 10 whole 0)
    .integer (if negative then -n else n)
  else
    .decimal ((if negative then ['-'] else []) ++ whole ++ tail)

/-- The number token at the front of a text. -/
def scanNumber (negative : Bool) (cs : List Char) : Option (Token × List Char) := do
  let (whole, cs) ← scanWhole cs
  let (fraction, cs) ← scanFraction cs
  let (exponent, cs) ← scanExponent cs
  pure (.number (numberOf negative whole (fraction ++ exponent)), cs)

/-- The token at the front of a text that does not begin with a blank, and the text behind it. -/
def scanToken : List Char → Option (Token × List Char)
  | '[' :: rest => some (.openArray, rest)
  | ']' :: rest => some (.closeArray, rest)
  | '{' :: rest => some (.openObject, rest)
  | '}' :: rest => some (.closeObject, rest)
  | ',' :: rest => some (.comma, rest)
  | ':' :: rest => some (.colon, rest)
  | '"' :: rest => scanString rest
  | '-' :: rest => scanNumber true rest
  | 'n' :: 'u' :: 'l' :: 'l' :: rest => some (.null, rest)
  | 't' :: 'r' :: 'u' :: 'e' :: rest => some (.boolean true, rest)
  | 'f' :: 'a' :: 'l' :: 's' :: 'e' :: rest => some (.boolean false, rest)
  | cs => scanNumber false cs

/-- The tokens of a text, at most `fuel` steps far. -/
def scanSteps : Nat → List Char → Option (List Token)
  | _, [] => some []
  | 0, _ :: _ => none
  | fuel + 1, c :: cs =>
      if isBlank c then scanSteps fuel cs
      else do
        let (token, rest) ← scanToken (c :: cs)
        let tokens ← scanSteps fuel rest
        pure (token :: tokens)

/-- The tokens of a text. Every step takes at least one character, so there are no more steps than
characters. -/
def scan (cs : List Char) : Option (List Token) :=
  scanSteps cs.length cs

end S7Request.Json
