import S7Request.Decimal.Literal
import S7Request.Settings.Library
import S7Request.Text.Lowercase
import S7Request.Word

/-!
# Settings in the environment

A variable whose name begins with the stem and the separator, in any case, is a setting. The rest
of its name is the setting's path, in which a separator stands for a dot. Its value is a boolean, an
integer or a floating-point number if it reads as one, and a text otherwise.
-/
namespace S7Request.Settings

/-- The text with a dot for every separator, of which the first characters may have been passed
over. -/
def dotted (separator : List Char) : Nat → List Char → List Char
  | _, [] => []
  | skip + 1, _ :: rest => dotted separator skip rest
  | 0, c :: rest =>
      if separator.isPrefixOf (c :: rest) then
        '.' :: dotted separator (separator.length - 1) rest
      else c :: dotted separator 0 rest

/-- The path of the setting in a variable's name, absent when the variable is not a setting. -/
def variablePath? (stem separator name : String) : Option String :=
  let start := (Text.lowercase (stem ++ separator)).toList
  let cs := (Text.lowercase name).toList
  if start.isPrefixOf cs then
    some (.ofList (dotted separator.toList 0 (cs.drop start.length)))
  else none

def integer? (cs : List Char) : Option Int :=
  let (negative, ds) := Decimal.splitSign cs
  let n := Int.ofNat (Decimal.digitsValue ds)
  let value := if negative then -n else n
  if ds ≠ [] ∧ ds.all Char.isDigit ∧ Word.isSigned64 value then some value else none

/-- The setting that a variable's value reads as. -/
def scalarOf (value : String) : Scalar :=
  let lower := Text.lowercase value
  if lower = "true" then .boolean true
  else if lower = "false" then .boolean false
  else
    match integer? value.toList with
    | some n => .integer n
    | none =>
        match Decimal.Binary64.parse? value.toList with
        | some x => .float x
        | none => .text value

/-- The settings in the variables of an environment. -/
def environmentSource (stem separator : String) (environment : List (String × String)) : Source :=
  environment.filterMap fun v =>
    (variablePath? stem separator v.1).map fun path =>
      (path, .leaf (some .environment) (scalarOf v.2))

end S7Request.Settings
