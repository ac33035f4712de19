import S7Request.Toml.Basic
import S7Request.Toml.Moment

/-!
# Tables that stand for moments

One name is reserved: a table that begins with it is not a table but the date or time that its
first entry spells, whatever else the table holds. The first entry must be a string with a date or
a time in it; otherwise the document has no meaning. A document as a whole stands for no moment.
-/
namespace S7Request.Toml

def momentName : String := "$__toml_private_datetime"

/-- The moment that a value spells. -/
def Value.spelled? : Value → Option Value
  | .string s => (moment? s.toList).map fun text => .moment (.ofList text)
  | _ => none

mutual

/-- The value with moments for the tables that stand for them. -/
def Value.untagged? : Value → Option Value
  | .array es => (untaggedElements? es).map .array
  | .table [] => some (.table [])
  | .table ((name, value) :: rest) =>
      if name = momentName then value.spelled?
      else do
        let value ← value.untagged?
        let rest ← untaggedEntries? rest
        some (.table ((name, value) :: rest))
  | value => some value

/-- The elements of an array with moments for the tables that stand for them. -/
def untaggedElements? : List Value → Option (List Value)
  | [] => some []
  | e :: es => do
      let e ← e.untagged?
      let es ← untaggedElements? es
      some (e :: es)

/-- The entries of a table with moments for the tables that stand for them. -/
def untaggedEntries? : List (String × Value) → Option (List (String × Value))
  | [] => some []
  | (name, value) :: rest => do
      let value ← value.untagged?
      let rest ← untaggedEntries? rest
      some ((name, value) :: rest)

end

/-- The table of a document with moments for the tables in it that stand for them. -/
def Table.untagged? (t : Table) : Option Table :=
  match Value.untagged? (.table t) with
  | some (.table entries) => some entries
  | _ => none

end S7Request.Toml
