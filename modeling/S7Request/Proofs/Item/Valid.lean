import S7Request.Item

/-!
# Valid items

The bit index of an item names a bit of a byte, an item has units, and the fields that mean nothing
for its area or its transport size are zero.
-/
namespace S7Request.Item

structure Valid (item : Item) : Prop where
  bitAddress_le : item.bitAddress ≤ 7
  bitAddress_eq_zero : ¬item.transportSize.isBit → item.bitAddress = 0
  dbNumber_eq_zero : item.area ≠ .dataBlocks → item.dbNumber = 0
  count_ne_zero : item.count ≠ 0

theorem valid_of_make {area : Area} {dbNumber : UInt16} {byteAddress : UInt32} {bitAddress : UInt8}
    {size : TransportSize} {count : UInt32} {item : Item}
    (h : make area dbNumber byteAddress bitAddress size count = .ok item) : item.Valid := by
  obtain ⟨hbit, hcount, rfl⟩ := make_eq_ok_iff.1 h
  refine ⟨?_, fun hsize => if_neg hsize, fun harea => if_neg harea, hcount⟩
  change (if size.isBit then bitAddress else 0) ≤ 7
  split
  · exact hbit
  · decide

/-- A valid item has nothing that making it from its own fields would clear. -/
theorem Valid.make_eq {item : Item} (h : item.Valid) :
    make item.area item.dbNumber item.byteAddress item.bitAddress item.transportSize item.count =
      .ok item := by
  have hdbNumber : (if item.area = .dataBlocks then item.dbNumber else 0) = item.dbNumber := by
    split
    · rfl
    · rename_i harea
      exact (h.dbNumber_eq_zero harea).symm
  have hbitAddress : (if item.transportSize.isBit then item.bitAddress else 0) =
      item.bitAddress := by
    split
    · rfl
    · rename_i hsize
      exact (h.bitAddress_eq_zero hsize).symm
  rw [make_eq_ok_iff, hdbNumber, hbitAddress]
  exact ⟨h.bitAddress_le, h.count_ne_zero, rfl⟩

end S7Request.Item
