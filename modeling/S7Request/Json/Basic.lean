/-!
# JSON values

A JSON value as it is written: object members keep their order and their repetitions, an integer
literal is kept apart from a literal with a fraction or an exponent, and a string with an escape
that stands for half of a character has no value.
-/
namespace S7Request

inductive Json.Number
  | integer (value : Int)
  /-- A literal with a fraction or an exponent, or a negative zero. -/
  | decimal (literal : List Char)
  deriving DecidableEq, Repr

/-- A JSON value. A string is absent when one of its escapes is an unpaired surrogate. -/
inductive Json
  | null
  | boolean (value : Bool)
  | number (value : Json.Number)
  | string (value : Option String)
  | array (elements : List Json)
  | object (members : List (Option String × Json))

namespace Json

def ofNat (n : Nat) : Json :=
  number (.integer (Int.ofNat n))

def ofString (s : String) : Json :=
  string (some s)

/-- An object whose members have well-formed names. -/
def ofFields (fields : List (String × Json)) : Json :=
  object (fields.map fun f => (some f.1, f.2))

/-- The natural number of an integer literal that is not negative. -/
def toNat? : Json → Option Nat
  | number (.integer (.ofNat n)) => some n
  | _ => none

end Json

end S7Request
