import S7Request.Area
import S7Request.TransportSize
import S7Request.Error
import S7Request.Word

/-!
# Request items

A request item names a run of units in one memory area: bits for the transport size `bit`, bytes
for every other one. `Item.make` refuses what no item may hold and clears the fields that have no
meaning for the item's area or transport size. `Item.slice` names a part of the run.
-/
namespace S7Request

/-- A run of `count` units in a memory area. -/
structure Item where
  area : Area
  /-- The number of the data block, zero in every other area. -/
  dbNumber : UInt16
  byteAddress : UInt32
  /-- The index of the first bit in its byte, zero unless bits are addressed. -/
  bitAddress : UInt8
  transportSize : TransportSize
  count : UInt32
  deriving DecidableEq, Repr

namespace Item

/-- The item with the given fields. The bit index is at most seven, also where it has no meaning,
and the count is not zero. -/
def make (area : Area) (dbNumber : UInt16) (byteAddress : UInt32) (bitAddress : UInt8)
    (transportSize : TransportSize) (count : UInt32) : Except Error Item :=
  if 7 < bitAddress then
    .error (.bitIndexOutOfRange s!"{area.name}{byteAddress}.{bitAddress}" bitAddress.toUInt32)
  else if count = 0 then
    .error (.addressFormat s!"{area.name}{byteAddress}" .zeroCount)
  else
    .ok {
      area
      dbNumber := if area = .dataBlocks then dbNumber else 0
      byteAddress
      bitAddress := if transportSize.isBit then bitAddress else 0
      transportSize
      count }

theorem make_eq_ok_iff {area : Area} {dbNumber : UInt16} {byteAddress : UInt32}
    {bitAddress : UInt8} {transportSize : TransportSize} {count : UInt32} {item : Item} :
    make area dbNumber byteAddress bitAddress transportSize count = .ok item ↔
      bitAddress ≤ 7 ∧ count ≠ 0 ∧
        item = ⟨area, if area = .dataBlocks then dbNumber else 0, byteAddress,
          if transportSize.isBit then bitAddress else 0, transportSize, count⟩ := by
  unfold make
  split
  · rename_i h
    simp [UInt8.not_le.2 h]
  · rename_i hbit
    split
    · rename_i hcount
      simp [hcount]
    · rename_i hcount
      rw [Except.ok.injEq]
      exact ⟨fun h => ⟨UInt8.not_lt.1 hbit, hcount, h.symm⟩, fun h => h.2.2.symm⟩

/-- The first unit of an item, counted from the start of its area: a bit number when bits are
addressed, else a byte number. -/
def start (item : Item) : Nat :=
  if item.transportSize.isBit then item.byteAddress.toNat * 8 + item.bitAddress.toNat
  else item.byteAddress.toNat

/-- The byte and bit address that lie `offset` units after the start of the item, absent when the
unit's number does not fit in 32 bits. -/
def advance? (item : Item) (offset : UInt32) : Option (UInt32 × UInt8) :=
  if item.transportSize.isBit then do
    let first ← Word.mul32? item.byteAddress 8
    let start ← Word.add32? first item.bitAddress.toUInt32
    let position ← Word.add32? start offset
    pure (position / 8, (position % 8).toUInt8)
  else do
    let position ← Word.add32? item.byteAddress offset
    pure (position, 0)

/-- The part of an item that begins `offset` units after its start and has `length` units. -/
def slice (item : Item) (offset length : UInt64) : Except Error Item :=
  match Word.add64? offset length with
  | none => .error (.planMismatch .rangeOverflow)
  | some stop =>
      if length = 0 ∨ item.count.toUInt64 < stop then
        .error (.planMismatch .rangeOutsideItem)
      else
        match Word.ofNat32? offset.toNat with
        | none => .error (.planMismatch .offsetOverflow)
        | some offset =>
            match item.advance? offset with
            | none => .error (.planMismatch .addressOverflow)
            | some (byteAddress, bitAddress) =>
                .ok { item with byteAddress, bitAddress, count := length.toUInt32 }

end Item

end S7Request
