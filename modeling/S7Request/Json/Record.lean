import S7Request.Json.Basic

/-!
# Records in JSON

A record of named fields is written as an object with one member for each field, in any order and
among other members, or as the array of its fields in order. A field that is missing or occurs
twice spoils the record, and so does a member whose name has no value.
-/
namespace S7Request.Json

/-- The value of the only member with a name. -/
def member? (members : List (Option String × Json)) (name : String) : Option Json :=
  match members.filter (·.1 = some name) with
  | [(_, value)] => some value
  | _ => none

/-- The fields of a record in the order of their names. -/
def record? (names : List String) : Json → Option (List Json)
  | array elements => if elements.length = names.length then some elements else none
  | object members =>
      if members.all (·.1.isSome) then names.mapM (member? members) else none
  | _ => none

end S7Request.Json
