import S7Request.Plan.Basic

/-!
# Putting responses together

The responses to the telegrams of a read plan are put together into one buffer for each item. Each
chunk's data goes to the chunk's place in the buffer of its item; data beyond the size of the chunk
is ignored.
-/
namespace S7Request

/-- The bytes of an item or of a part of one. -/
abbrev Bytes := List UInt8

/-- The buffer with `data` written over it from an offset on. -/
def overwrite (buffer : Bytes) (offset : Nat) (data : Bytes) : Bytes :=
  buffer.take offset ++ data ++ buffer.drop (offset + data.length)

theorem length_overwrite {buffer data : Bytes} {offset : Nat}
    (h : offset + data.length ≤ buffer.length) :
    (overwrite buffer offset data).length = buffer.length := by
  simp only [overwrite, List.length_append, List.length_take, List.length_drop]
  omega

namespace Plan

/-- Writes the data of one chunk into the buffer of its item. -/
def storeChunk (buffers : List Bytes) (c : Chunk) (data : Bytes) : Except Error (List Bytes) :=
  if data.length < c.chunkSize.toNat then
    .error (.insufficientData c.chunkSize data.length)
  else
    match buffers[c.tagIndex]? with
    | none => .error (.planMismatch .unknownItem)
    | some buffer =>
        .ok (buffers.set c.tagIndex
          (overwrite buffer c.offset.toNat (data.take c.chunkSize.toNat)))

/-- Writes the response to one telegram into the buffers. -/
def storeGroup (buffers : List Bytes) (g : Group) (response : List Bytes) :
    Except Error (List Bytes) :=
  if g.chunks.length ≠ response.length then
    .error (.planMismatch .responseItemCount)
  else
    (g.chunks.zip response).foldlM (fun buffers entry => storeChunk buffers entry.1 entry.2) buffers

/-- The data of every item, put together from the responses to all telegrams. -/
def merge (plan : Plan .read) (responses : List (List Bytes)) : Except Error (List Bytes) :=
  if responses.length ≠ plan.groups.length then
    .error (.planMismatch .responseCount)
  else
    (plan.groups.zip responses).foldlM (fun buffers entry => storeGroup buffers entry.1 entry.2)
      (plan.items.map fun item => List.replicate item.count.toNat 0)

end Plan

end S7Request
