import S7Request.Json.Library
import S7Request.Json.Magnitude
import S7Request.Json.Parser
import S7Request.Json.Plain
import S7Request.Json.Printer
import S7Request.Json.Record
import S7Request.Word

/-!
# The standard JSON library

Texts are read and written here, integer literals are words where they are in range, and a record is
an object or the array of its fields.
-/
namespace S7Request.Json

def toWord8? (j : Json) : Option UInt8 :=
  j.toNat?.bind fun n => if n < UInt8.size then some (.ofNat n) else none

def toWord16? (j : Json) : Option UInt16 :=
  j.toNat?.bind Word.ofNat16?

def toWord64? (j : Json) : Option UInt64 :=
  j.toNat?.bind Word.ofNat64?

def elements? : Json → Option (List Json)
  | array elements => some elements
  | _ => none

/-- The tag of a record and what stands beside it: as an object, the other members; as an array,
the tag comes first. -/
def tagged? (tag : String) (j : Json) : Option (String × Json) :=
  if j.isPlain Number.isFinite maxDepth then
    match j with
    | array (string (some kind) :: fields) => some (kind, array fields)
    | object members =>
        match member? members tag with
        | some (string (some kind)) => some (kind, object (members.filter (·.1 ≠ some tag)))
        | _ => none
    | _ => none
  else none

/-- A variant without fields ignores the members of an object and has no elements. -/
def isBare : Json → Bool
  | object _ => true
  | array [] => true
  | _ => false

/-- The JSON library of this project. -/
def Library.standard : Library where
  write := render
  read := parse
  word8 := toWord8?
  word16 := toWord16?
  word64 := toWord64?
  sequence := elements?
  record := record?
  holds := Number.isFinite
  tagged := tagged?
  bare := isBare

end S7Request.Json
