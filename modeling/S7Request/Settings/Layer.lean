import S7Request.Settings.Library
import S7Request.Settings.Path
import S7Request.Text.Lowercase

/-!
# Settings laid over each other

Tables are merged entry by entry, and anything else replaces what lies under it. A path leads to its
end by force: a step by name turns what is not a table into a table, a step by index what is not an
array into an array, which grows to the index as long as there is room.
-/
namespace S7Request.Settings.Tree

mutual

/-- Lays a tree over the entry of a name. -/
def lay (name : String) (value : Tree) (target : Tree) : Tree :=
  let key := Text.lowercase name
  match value with
  | table _ inner =>
      target.putEntry key (layAll inner ((target.entries.get? key).getD emptyTable))
  | value => target.putEntry key value

/-- Lays named trees over a table, one after the other. -/
def layAll (inner : List (String × Tree)) (target : Tree) : Tree :=
  match inner with
  | [] => target
  | (name, t) :: rest => layAll rest (lay name t target)

end

/-- The place of an index in an array of a given size. -/
def position (size : Nat) (index : Int) : Nat :=
  if 0 ≤ index then index.toNat else size - index.natAbs

/-- The number of elements that an array is grown to. -/
def capacity : Nat := 16777216

/-- Lays a value over what lies at the end of a path. -/
def set (value : Tree) : List Step → Tree → Except Fault Tree
  | [], _ => .ok value
  | [.name name], target => .ok (lay name value target)
  | .name name :: step :: steps, target =>
      let key := Text.lowercase name
      (set value (step :: steps) ((target.entries.get? key).getD nothing)).map (target.putEntry key)
  | .index index :: steps, target =>
      let i := position target.elements.length index
      if i < capacity then
        (set value steps ((target.elements[i]?).getD nothing)).map (target.putElement i)
      else .error .noRoom

/-- The tree of several sources, of which the later ones are laid over the earlier ones. -/
def build (sources : List Source) : Except Fault Tree :=
  sources.flatten.foldlM (fun t e => set e.2 (pathOf e.1) t) emptyTable

end S7Request.Settings.Tree
