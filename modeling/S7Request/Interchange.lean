import S7Request.Address.Policy
import S7Request.Area
import S7Request.Budget
import S7Request.Json.Standard
import S7Request.Packing.Group
import S7Request.TransportSize

/-!
# Interchange

The JSON form of the values that plans consist of. Areas and transport sizes are their codes,
chunks, groups and budgets are records, and a policy is a record whose member `kind` says which
policy it is.
-/
namespace S7Request

namespace Area

def toJson (a : Area) : Json :=
  .ofNat a.code.toNat

def ofJson (lib : Json.Library) (j : Json) : Option Area :=
  (lib.word8 j).bind ofCode?

def ofJson? : Json → Option Area :=
  ofJson .standard

end Area

namespace TransportSize

def toJson (t : TransportSize) : Json :=
  .ofNat t.code.toNat

def ofJson (lib : Json.Library) (j : Json) : Option TransportSize :=
  (lib.word8 j).bind ofCode?

def ofJson? : Json → Option TransportSize :=
  ofJson .standard

end TransportSize

namespace Chunk

/-- The names of the fields of a chunk, in order. -/
def fieldNames : List String :=
  ["tagIndex", "originalSize", "offset", "chunkSize", "overheadSize", "margin"]

def toJson (c : Chunk) : Json :=
  .ofFields [
    ("tagIndex", .ofNat c.tagIndex),
    ("originalSize", .ofNat c.requestSize.toNat),
    ("offset", .ofNat c.offset.toNat),
    ("chunkSize", .ofNat c.chunkSize.toNat),
    ("overheadSize", .ofNat c.overheadSize.toNat),
    ("margin", .ofNat c.margin.toNat)]

def ofJson (lib : Json.Library) (j : Json) : Option Chunk := do
  let fields ← lib.record fieldNames j
  match ← fields.mapM lib.word64 with
  | [tagIndex, requestSize, offset, chunkSize, overheadSize, margin] =>
      some ⟨tagIndex.toNat, requestSize, offset, chunkSize, overheadSize, margin⟩
  | _ => none

def ofJson? : Json → Option Chunk :=
  ofJson .standard

end Chunk

namespace Group

def toJson (g : Group) : Json :=
  .ofFields [("chunks", .array (g.chunks.map Chunk.toJson))]

def ofJson (lib : Json.Library) (j : Json) : Option Group := do
  match ← lib.record ["chunks"] j with
  | [chunks] =>
      let elements ← lib.sequence chunks
      (elements.mapM (Chunk.ofJson lib)).map Group.mk
  | _ => none

def ofJson? : Json → Option Group :=
  ofJson .standard

end Group

namespace Budget

/-- The names of the fields of a budget, in order. -/
def fieldNames : List String :=
  ["targetSize", "overheadSize", "margin"]

def toJson (b : Budget) : Json :=
  .ofFields [
    ("targetSize", .ofNat b.target.toNat),
    ("overheadSize", .ofNat b.overhead.toNat),
    ("margin", .ofNat b.margin.toNat)]

def ofJson (lib : Json.Library) (j : Json) : Option Budget := do
  let fields ← lib.record fieldNames j
  match ← fields.mapM lib.word64 with
  | [target, overhead, margin] => some ⟨target, overhead, margin⟩
  | _ => none

def ofJson? : Json → Option Budget :=
  ofJson .standard

end Budget

namespace VPolicy

def toJson : VPolicy → Json
  | .block dbNumber =>
      .ofFields [("kind", .ofString "alias"), ("db_number", .ofNat dbNumber.toNat)]
  | .reject => .ofFields [("kind", .ofString "reject")]

/-- The policy of a record by its kind. Fields that the policy does not know are ignored. -/
def ofJson (lib : Json.Library) (j : Json) : Option VPolicy := do
  let (kind, content) ← lib.tagged "kind" j
  if kind = "alias" then
    match ← lib.record ["db_number"] content with
    | [number] => (lib.word16 number).map .block
    | _ => none
  else if kind = "reject" ∧ lib.bare content then some .reject
  else none

def ofJson? : Json → Option VPolicy :=
  ofJson .standard

end VPolicy

end S7Request
