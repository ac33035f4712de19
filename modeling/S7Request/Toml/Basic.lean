import S7Request.Decimal.Binary64
import S7Request.Entries

/-!
# TOML values

The values of a TOML document and its statements. A date or a time is held as its text.
-/
namespace S7Request.Toml

inductive Value
  | string (value : String)
  | integer (value : Int)
  | float (value : Decimal.Binary64)
  | boolean (value : Bool)
  | moment (text : String)
  | array (elements : List Value)
  | table (entries : List (String × Value))

abbrev Table := Entries Value

/-- A line of a TOML document. A path is given as the names before the last one and the last
one. -/
inductive Statement
  | pair (path : List String) (name : String) (value : Value)
  | tableHeader (path : List String) (name : String)
  | elementHeader (path : List String) (name : String)

end S7Request.Toml
