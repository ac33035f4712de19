import S7Request.Json.Token

/-!
# Reading JSON values

The value that a list of tokens spells. Every step of the reader either takes a token or turns to
the first element or member of what it has just opened, so twice the number of tokens bounds the
number of steps.
-/
namespace S7Request.Json

mutual

/-- The value at the front of a list of tokens, at most `fuel` steps deep. -/
def readValue : Nat → List Token → Option (Json × List Token)
  | 0, _ => none
  | _ + 1, [] => none
  | fuel + 1, token :: rest =>
      match token with
      | .null => some (.null, rest)
      | .boolean b => some (.boolean b, rest)
      | .number n => some (.number n, rest)
      | .string s => some (.string s, rest)
      | .openArray =>
          match rest with
          | .closeArray :: rest => some (.array [], rest)
          | _ => (readElements fuel rest).map fun (es, rest) => (.array es, rest)
      | .openObject =>
          match rest with
          | .closeObject :: rest => some (.object [], rest)
          | _ => (readMembers fuel rest).map fun (ms, rest) => (.object ms, rest)
      | _ => none

/-- The elements of an array up to its closing bracket. -/
def readElements : Nat → List Token → Option (List Json × List Token)
  | 0, _ => none
  | fuel + 1, tokens => do
      let (value, rest) ← readValue fuel tokens
      match rest with
      | .closeArray :: rest => some ([value], rest)
      | .comma :: rest =>
          let (values, rest) ← readElements fuel rest
          some (value :: values, rest)
      | _ => none

/-- The members of an object up to its closing brace. -/
def readMembers : Nat → List Token → Option (List (Option String × Json) × List Token)
  | 0, _ => none
  | fuel + 1, tokens =>
      match tokens with
      | .string name :: .colon :: rest => do
          let (value, rest) ← readValue fuel rest
          match rest with
          | .closeObject :: rest => some ([(name, value)], rest)
          | .comma :: rest =>
              let (members, rest) ← readMembers fuel rest
              some ((name, value) :: members, rest)
          | _ => none
      | _ => none

end

/-- The value that a list of tokens spells. -/
def ofTokens (tokens : List Token) : Option Json :=
  match readValue (2 * tokens.length) tokens with
  | some (value, []) => some value
  | _ => none

def parse (text : String) : Option Json :=
  (scan text.toList).bind ofTokens

end S7Request.Json
