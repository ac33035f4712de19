import S7Request.Plan.Merge

/-!
# Cutting payloads

The payloads of the items of a write plan are cut into the payloads of its chunks.
-/
namespace S7Request.Plan

/-- The part of an item's payload that a chunk carries. -/
def chunkPayload (payloads : List Bytes) (c : Chunk) : Bytes :=
  ((payloads[c.tagIndex]?.getD []).drop c.offset.toNat).take c.chunkSize.toNat

/-- The payloads that each telegram carries. There is one payload for each item, and it is as long
as the item's count. -/
def split (plan : Plan .write) (payloads : List Bytes) : Except Error (List (List Bytes)) :=
  if payloads.length ≠ plan.items.length then
    .error (.planMismatch .payloadCount)
  else if (plan.items.zip payloads).any fun entry => entry.2.length != entry.1.count.toNat then
    .error (.planMismatch .payloadLength)
  else
    .ok (plan.groups.map fun g => g.chunks.map (chunkPayload payloads))

end S7Request.Plan
