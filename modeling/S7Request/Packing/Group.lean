/-!
# Chunks and groups

A request that does not fit in one telegram is cut into chunks. A group is the list of chunks that
one telegram carries.
-/
namespace S7Request

/-- A part of one request, as a telegram carries it. -/
structure Chunk where
  /-- The position of the request in the list of requests. -/
  tagIndex : Nat
  /-- The size of the whole request. -/
  requestSize : UInt64
  /-- Where the part begins in the request. -/
  offset : UInt64
  chunkSize : UInt64
  /-- What the telegram spends on the part beside its payload. -/
  overheadSize : UInt64
  /-- The closing margin of a read, zero for a write. -/
  margin : UInt64
  deriving DecidableEq, Repr

namespace Chunk

/-- What the chunk takes up in a telegram. -/
def totalLength (c : Chunk) : UInt64 :=
  c.chunkSize + c.overheadSize

/-- Whether the chunk is less than its whole request. -/
def isPartial (c : Chunk) : Bool :=
  c.chunkSize < c.requestSize

end Chunk

/-- The chunks that one telegram carries, in order. -/
structure Group where
  chunks : List Chunk
  deriving DecidableEq, Repr

namespace Group

/-- What the chunks of a group take up in a telegram. -/
def totalLength (g : Group) : UInt64 :=
  g.chunks.foldr (fun c n => c.totalLength + n) 0

def payloadLength (g : Group) : UInt64 :=
  g.chunks.foldr (fun c n => c.chunkSize + n) 0

end Group

end S7Request
