import S7Request.Toml.Assemble
import S7Request.Toml.Number
import S7Request.Toml.Tagged
import S7Request.Toml.Text

/-!
# Reading TOML

The statements of a document and its table. Arrays and inline tables are nested at most
`maxNesting` deep, and the parts of a dotted name are limited alike. The readers of lists take a
number of steps that the length of the text bounds, since every step takes at least one character.
-/
namespace S7Request.Toml

/-- The number of arrays and inline tables around each other, and of the parts of a name. -/
def maxNesting : Nat := 79

/-- The parts of a dotted name, in at most `fuel` steps. Blanks may stand around every part. -/
def scanParts : Nat → List Char → Option (List String × List Char)
  | 0, _ => none
  | fuel + 1, cs => do
      let (part, rest) ← scanName (skipBlanks cs)
      match skipBlanks rest with
      | '.' :: rest =>
          let (parts, rest) ← scanParts fuel rest
          some (part :: parts, rest)
      | rest => some ([part], rest)

/-- A dotted name: the parts before the last one, and the last one. -/
def scanPath (cs : List Char) : Option (List String × String × List Char) := do
  let (parts, rest) ← scanParts (cs.length + 1) cs
  if parts.length ≤ maxNesting then
    match parts.reverse with
    | name :: path => some (path.reverse, name, rest)
    | [] => none
  else none

/-- A name, an equals sign and a value. Blanks may stand around each. -/
def scanPair (scanValue : List Char → Option (Value × List Char)) (cs : List Char) :
    Option ((List String × String × Value) × List Char) := do
  let (path, name, rest) ← scanPath cs
  match rest with
  | '=' :: rest =>
      let (value, rest) ← scanValue (skipBlanks rest)
      some ((path, name, value), skipBlanks rest)
  | _ => none

/-- The elements of an array up to its closing bracket, in at most `fuel` steps. -/
def scanElements (scanValue : List Char → Option (Value × List Char)) :
    Nat → List Char → Option (List Value × List Char)
  | 0, _ => none
  | fuel + 1, cs =>
      match skipTrivia false cs with
      | ']' :: rest => some ([], rest)
      | cs => do
          let (value, rest) ← scanValue cs
          match skipTrivia false rest with
          | ']' :: rest => some ([value], rest)
          | ',' :: rest =>
              let (values, rest) ← scanElements scanValue fuel rest
              some (value :: values, rest)
          | _ => none

/-- The pairs of an inline table up to its closing brace, in at most `fuel` steps. -/
def scanPairs (scanValue : List Char → Option (Value × List Char)) :
    Nat → List Char → Option (List (List String × String × Value) × List Char)
  | 0, _ => none
  | fuel + 1, cs => do
      let (pair, rest) ← scanPair scanValue cs
      match rest with
      | '}' :: rest => some ([pair], rest)
      | ',' :: rest =>
          let (pairs, rest) ← scanPairs scanValue fuel rest
          some (pair :: pairs, rest)
      | _ => none

/-- The value at the front of a text, with at most `depth` arrays and inline tables around each
other. -/
def scanValue : Nat → List Char → Option (Value × List Char)
  | 0, '[' :: _ => none
  | 0, '{' :: _ => none
  | depth + 1, '[' :: rest =>
      (scanElements (scanValue depth) (rest.length + 1) rest).map fun r => (.array r.1, r.2)
  | depth + 1, '{' :: rest =>
      match skipBlanks rest with
      | '}' :: rest => some (.table [], rest)
      | rest => do
          let (pairs, rest) ← scanPairs (scanValue depth) (rest.length + 1) rest
          let entries ← inlineTable? pairs
          some (.table entries, rest)
  | _, '"' :: rest => (scanString ('"' :: rest)).map fun r => (.string r.1, r.2)
  | _, '\'' :: rest => (scanString ('\'' :: rest)).map fun r => (.string r.1, r.2)
  | _, 't' :: 'r' :: 'u' :: 'e' :: rest => some (.boolean true, rest)
  | _, 'f' :: 'a' :: 'l' :: 's' :: 'e' :: rest => some (.boolean false, rest)
  | _, cs => scanNumber cs

/-- A header from behind its opening bracket. -/
def scanHeader (cs : List Char) : Option (Statement × List Char) :=
  match cs with
  | '[' :: rest => do
      let (path, name, rest) ← scanPath rest
      match rest with
      | ']' :: ']' :: rest => some (.elementHeader path name, rest)
      | _ => none
  | _ => do
      let (path, name, rest) ← scanPath cs
      match rest with
      | ']' :: rest => some (.tableHeader path name, rest)
      | _ => none

def scanStatement (cs : List Char) : Option (Statement × List Char) :=
  match cs with
  | '[' :: rest => scanHeader rest
  | _ => (scanPair (scanValue maxNesting) cs).map fun r => (.pair r.1.1 r.1.2.1 r.1.2.2, r.2)

/-- The statements of a text, in at most `fuel` lines. -/
def scanStatements : Nat → List Char → Option (List Statement)
  | 0, _ => none
  | fuel + 1, cs =>
      match endOfLine? cs with
      | some [] => some []
      | some rest => scanStatements fuel rest
      | none => do
          let (statement, rest) ← scanStatement (skipBlanks cs)
          let rest ← endOfLine? rest
          let statements ← scanStatements fuel rest
          some (statement :: statements)

/-- The text without a byte order mark at its front. -/
def skipMark : List Char → List Char
  | '\uFEFF' :: rest => rest
  | cs => cs

/-- The table of a document as it is written. -/
def document? (text : String) : Option Table := do
  let cs := skipMark text.toList
  let statements ← scanStatements (cs.length + 1) cs
  assemble? statements

/-- The table of a document with moments for the tables in it that stand for them. -/
def parse? (text : String) : Option Table :=
  (document? text).bind Table.untagged?

end S7Request.Toml
