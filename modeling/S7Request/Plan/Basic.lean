import S7Request.Item
import S7Request.Packing.Pack

/-!
# Plans

A plan says which parts of a list of items each telegram carries. Items are packed by their
counts; the parts are slices of the items.
-/
namespace S7Request

/-- Items packed for one direction. -/
structure Plan (d : Direction) where
  packing : Packing
  items : List Item

namespace Plan

/-- The plan of exchanging a list of items. -/
def make (d : Direction) (config : PlannerConfig) (items : List Item) : Except Error (Plan d) := do
  let budget ← config.budget d
  let packing ← pack d (items.map (·.count.toUInt64)) budget
  pure ⟨packing, items⟩

def groups (plan : Plan d) : List Group :=
  plan.packing.groups

def events (plan : Plan d) : List Event :=
  plan.packing.events

/-- The part of an item that a chunk stands for. -/
def chunkItem (items : List Item) (c : Chunk) : Except Error Item :=
  match items[c.tagIndex]? with
  | none => .error (.planMismatch .unknownItem)
  | some item => item.slice c.offset c.chunkSize

/-- The items that each telegram asks for, in the order of the chunks. -/
def requests (plan : Plan d) : Except Error (List (List Item)) :=
  plan.groups.mapM fun g => g.chunks.mapM (chunkItem plan.items)

end Plan

end S7Request
