import S7Request.Json.Basic

/-!
# What is taken from a JSON library

The encoders and decoders of plan data are made from the names and the types of fields. The texts,
the search for fields and the ranges of numbers are the library's.
-/
namespace S7Request.Json

/-- What encoders and decoders take from a JSON library. -/
structure Library where
  /-- The text that a value is written as. -/
  write : Json → String
  /-- The value that a text spells, absent when it is not JSON. -/
  read : String → Option Json
  word8 : Json → Option UInt8
  word16 : Json → Option UInt16
  word64 : Json → Option UInt64
  /-- The elements of a sequence. -/
  sequence : Json → Option (List Json)
  /-- The fields of a record in the order of their names. -/
  record : List String → Json → Option (List Json)
  /-- Whether a number can be held in memory until it is asked for. -/
  holds : Number → Bool
  /-- The tag of a record, which may stand behind other fields, and the record without it. The
  whole record is held in memory meanwhile. -/
  tagged : String → Json → Option (String × Json)
  /-- Whether a tagged record may have no fields of its own. -/
  bare : Json → Bool

/-- What a text is decoded to. -/
def Library.decode? (lib : Library) (ofJson : Library → Json → Option α) (text : String) :
    Option α :=
  (lib.read text).bind (ofJson lib)

end S7Request.Json
