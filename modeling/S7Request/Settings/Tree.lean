import S7Request.Entries
import S7Request.Settings.Fault

/-!
# Trees of settings

Settings from several sources are laid over each other in one tree. Every part of the tree
remembers where it was read; a table that several sources share belongs to none of them. Names are
in lower case, except within arrays, which are taken over as they are.
-/
namespace S7Request.Settings

inductive Scalar
  | absent
  | boolean (value : Bool)
  | integer (value : Int)
  | float (value : Decimal.Binary64)
  | text (value : String)
  deriving DecidableEq, Repr

/-- A setting, a table of named settings, or an array of settings. -/
inductive Tree
  | leaf (origin : Option Origin) (value : Scalar)
  | table (origin : Option Origin) (entries : List (String × Tree))
  | array (origin : Option Origin) (elements : List Tree)

/-- A step into a tree. A negative index counts from the end. -/
inductive Step
  | name (name : String)
  | index (index : Int)
  deriving DecidableEq, Repr

namespace Tree

/-- Nothing, read nowhere. -/
def nothing : Tree :=
  leaf none .absent

/-- A table without entries, read nowhere. -/
def emptyTable : Tree :=
  table none []

/-- The entries of a table; whatever is not a table has none. -/
def entries : Tree → Entries Tree
  | table _ es => es
  | _ => []

/-- The elements of an array; whatever is not an array has none. -/
def elements : Tree → List Tree
  | array _ es => es
  | _ => []

/-- The table with a value for a name. Whatever is not a table becomes one, read nowhere. -/
def putEntry (t : Tree) (name : String) (value : Tree) : Tree :=
  match t with
  | table origin es => table origin (Entries.put es name value)
  | _ => table none [(name, value)]

/-- The array with a value at an index; indices that are missing hold nothing. Whatever is not an
array becomes one, read nowhere. -/
def putElement (t : Tree) (index : Nat) (value : Tree) : Tree :=
  let origin := match t with
    | array origin _ => origin
    | _ => none
  let es := t.elements
  array origin ((es ++ List.replicate (index + 1 - es.length) nothing).set index value)

def found : Tree → Found
  | leaf _ .absent => .unit
  | leaf _ (.boolean b) => .boolean b
  | leaf _ (.integer n) => .integer n
  | leaf _ (.float x) => .float x
  | leaf _ (.text s) => .text s
  | table .. => .map
  | array .. => .sequence

def origin : Tree → Option Origin
  | leaf origin _ => origin
  | table origin _ => origin
  | array origin _ => origin

end Tree

end S7Request.Settings
