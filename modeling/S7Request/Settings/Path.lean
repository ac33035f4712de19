import S7Request.Settings.Tree
import S7Request.Word

/-!
# Paths of settings

The outermost names of a source are read as paths: a name, and then names behind dots and indices
in brackets. A name consists of ASCII letters, digits, underscores, hyphens and blanks. Whatever
does not have this form is one plain name.
-/
namespace S7Request.Settings

/-- A character of a name in a path. -/
def isNameChar (c : Char) : Bool :=
  c.isAlphanum || c = '_' || c = '-' || c = ' '

def isPadding (c : Char) : Bool :=
  c = ' ' || c = '\t'

/-- The index from behind an opening bracket, and the text behind the closing one. -/
def scanIndex (cs : List Char) : Option (Int × List Char) :=
  let (negative, digits) :=
    match cs.dropWhile isPadding with
    | '-' :: rest => (true, rest)
    | rest => (false, rest)
  let n := Int.ofNat (Nat.ofDigitChars 10 (digits.takeWhile Char.isDigit) 0)
  let index := if negative then -n else n
  if digits.takeWhile Char.isDigit = [] ∨ !Word.isSigned64 index then none
  else
    match (digits.dropWhile Char.isDigit).dropWhile isPadding with
    | ']' :: rest => some (index, rest)
    | _ => none

/-- The steps behind the first name of a path, in at most `fuel` steps. -/
def scanSteps : Nat → List Char → Option (List Step)
  | _, [] => some []
  | fuel + 1, '.' :: rest =>
      let name := rest.takeWhile isNameChar
      if name = [] then none
      else (scanSteps fuel (rest.dropWhile isNameChar)).map (.name (.ofList name) :: ·)
  | fuel + 1, '[' :: rest => do
      let (index, rest) ← scanIndex rest
      let steps ← scanSteps fuel rest
      pure (.index index :: steps)
  | _, _ => none

/-- The steps of a path with this form. -/
def steps? (cs : List Char) : Option (List Step) :=
  let name := cs.takeWhile isNameChar
  if name = [] then none
  else (scanSteps cs.length (cs.dropWhile isNameChar)).map (.name (.ofList name) :: ·)

/-- The steps of a name as it stands in a source. -/
def pathOf (name : String) : List Step :=
  (steps? name.toList).getD [.name name]

end S7Request.Settings
