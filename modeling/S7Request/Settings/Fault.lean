import S7Request.Decimal.Shortest
import S7Request.Text.Quoted

/-!
# Faults in settings

Why settings cannot be read: the file is not in the settings format, a number setting has a value
of the wrong type, or a value does not have the shape its setting asks for. The wording of each is
given here and nowhere else.
-/
namespace S7Request.Settings

inductive Origin
  | file (name : String)
  | environment
  deriving DecidableEq, Repr

def Origin.text : Origin → String
  | file name => name
  | environment => "the environment"

inductive Found
  | boolean (value : Bool)
  | integer (value : Int)
  | signedWord (value : Int)
  | unsignedWord (value : UInt64)
  | float (value : Decimal.Binary64)
  | text (value : String)
  | unit
  | sequence
  | map
  deriving DecidableEq, Repr

def Found.describe : Found → String
  | boolean value => s!"boolean `{value}`"
  | integer value => s!"integer `{value}`"
  | signedWord value => s!"64-bit integer `{value}`"
  | unsignedWord value => s!"64-bit unsigned integer `{value}`"
  | float value => s!"floating point `{value.text}`"
  | text value => "string " ++ Text.quoted value
  | unit => "unit value"
  | sequence => "sequence"
  | map => "map"

inductive Expected
  | unsignedWord
  | unsignedHalf
  | integer
  | settings
  | plannerSection
  | addressSection
  | policy
  | policyName
  | blockVariant
  | blockNumber
  deriving DecidableEq, Repr

def Expected.text : Expected → String
  | unsignedWord => "an unsigned 64 bit or less integer"
  | unsignedHalf => "an unsigned 16 bit integer"
  | integer => "an integer"
  | settings => "struct Inner"
  | plannerSection => "struct Planner"
  | addressSection => "struct Address"
  | policy => "internally tagged enum VAreaPolicy"
  | policyName => "variant identifier"
  | blockVariant => "struct variant VAreaPolicy::Alias with 1 element"
  | blockNumber => "u16"

/-- What may stand in place of an unknown variant. -/
def alternatives : List String → String
  | [] => "there are no variants"
  | [a] => "expected `" ++ a ++ "`"
  | [a, b] => "expected `" ++ a ++ "` or `" ++ b ++ "`"
  | names => "expected one of " ++ ", ".intercalate (names.map fun a => "`" ++ a ++ "`")

/-- Why settings cannot be read. -/
inductive Fault
  | notParsed
  /-- An array cannot be grown to an index. The program stops there. -/
  | noRoom
  | wrongNumber (found : Found) (expected : Expected) (key : String) (origin : Option Origin)
  | wrongType (found : Found) (expected : Expected)
  | wrongValue (found : Found) (expected : Expected)
  | missingField (name : String)
  | unknownVariant (name : String) (variants : List String)
  | tooShort (count : Nat) (expected : Expected)
  | surplus (count : Nat) (allowed : Nat)
  deriving DecidableEq, Repr

def Fault.message : Fault → String
  | notParsed => "the settings file cannot be parsed"
  | noRoom => "capacity overflow"
  | wrongNumber found expected key origin =>
      "invalid type: " ++ found.describe ++ ", expected " ++ expected.text ++ " for key `" ++ key ++
        "`" ++ (match origin with
          | some o => " in " ++ o.text
          | none => "")
  | wrongType found expected => "invalid type: " ++ found.describe ++ ", expected " ++ expected.text
  | wrongValue found expected =>
      "invalid value: " ++ found.describe ++ ", expected " ++ expected.text
  | missingField name => "missing field `" ++ name ++ "`"
  | unknownVariant name variants => "unknown variant `" ++ name ++ "`, " ++ alternatives variants
  | tooShort count expected => "invalid length " ++ toString count ++ ", expected " ++ expected.text
  | surplus count allowed =>
      "invalid length " ++ toString count ++ ", expected " ++ toString allowed ++
        (if allowed = 1 then " element in sequence" else " elements in sequence")

end S7Request.Settings
