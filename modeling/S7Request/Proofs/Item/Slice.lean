import S7Request.Item
import Mathlib.Data.Nat.Notation

/-!
# Slices

A slice is the item moved to a later unit and shortened. It exists when it is not empty, ends
within the item, and begins at a unit whose number fits in 32 bits.
-/
namespace S7Request.Item

/-- The item that begins at the unit with a given number and has `count` units. -/
def relocate (item : Item) (position count : UInt32) : Item :=
  if item.transportSize.isBit then
    { item with byteAddress := position / 8, bitAddress := (position % 8).toUInt8, count }
  else
    { item with byteAddress := position, bitAddress := 0, count }

section relocate

variable (item : Item) (position count : UInt32)

@[simp] theorem area_relocate : (item.relocate position count).area = item.area := by
  unfold relocate
  split <;> rfl

@[simp] theorem dbNumber_relocate : (item.relocate position count).dbNumber = item.dbNumber := by
  unfold relocate
  split <;> rfl

@[simp] theorem transportSize_relocate :
    (item.relocate position count).transportSize = item.transportSize := by
  unfold relocate
  split <;> rfl

@[simp] theorem count_relocate : (item.relocate position count).count = count := by
  unfold relocate
  split <;> rfl

/-- Of two moves the second decides. -/
@[simp] theorem relocate_relocate (position' count' : UInt32) :
    (item.relocate position count).relocate position' count' =
      item.relocate position' count' := by
  rw [relocate, transportSize_relocate]
  unfold relocate
  split <;> rfl

/-- A bit number is eight times the byte number and the index of the bit in its byte. -/
theorem start_relocate : (item.relocate position count).start = position.toNat := by
  rw [start, transportSize_relocate]
  unfold relocate
  split
  · have hbit : (position.toNat % 8) % 2 ^ 8 = position.toNat % 8 := Nat.mod_eq_of_lt (by omega)
    simp only [UInt32.toNat_div, UInt32.toNat_mod, UInt32.toNat_toUInt8, UInt32.reduceToNat, hbit]
    omega
  · rfl

end relocate

/-- An address moves on as long as the number of the unit fits in 32 bits. -/
theorem advance?_eq_some_iff {item : Item} {offset : UInt32} {address : UInt32 × UInt8} :
    item.advance? offset = some address ↔
      ∃ position : UInt32, position.toNat = item.start + offset.toNat ∧
        address = if item.transportSize.isBit then (position / 8, (position % 8).toUInt8)
          else (position, 0) := by
  unfold advance? start
  split
  · simp only [bind, Option.bind_eq_some_iff, pure, Option.some.injEq, Word.mul32?_eq_some_iff,
      Word.add32?_eq_some_iff]
    constructor
    · rintro ⟨first, hfirst, start, hstart, position, hposition, rfl⟩
      refine ⟨position, ?_, rfl⟩
      rw [hposition, hstart, hfirst]
      rfl
    · rintro ⟨position, hposition, rfl⟩
      -- The intermediate sums are below the last one, so none of them overflows.
      have hlt : position.toNat < UInt32.size := position.toNat_lt
      have hfirst : (UInt32.ofNat (item.byteAddress.toNat * 8)).toNat =
          item.byteAddress.toNat * 8 := UInt32.toNat_ofNat_of_lt' (by omega)
      have hstart : (UInt32.ofNat (item.byteAddress.toNat * 8 + item.bitAddress.toNat)).toNat =
          item.byteAddress.toNat * 8 + item.bitAddress.toNat :=
        UInt32.toNat_ofNat_of_lt' (by omega)
      exact ⟨_, hfirst, _, by rw [hstart, hfirst]; rfl, _, by rw [hposition, hstart], rfl⟩
  · simp only [bind, Option.bind_eq_some_iff, pure, Option.some.injEq, Word.add32?_eq_some_iff]
    exact exists_congr fun position => and_congr_right fun _ => eq_comm

theorem toNat_toUInt32_of_le {item : Item} {offset length : UInt64}
    (hle : offset.toNat + length.toNat ≤ item.count.toNat) :
    offset.toUInt32.toNat = offset.toNat := by
  have hcount := item.count.toNat_lt
  rw [UInt64.toNat_toUInt32, Nat.mod_eq_of_lt (by omega)]

/-- An address is missing when the number of the unit does not fit in 32 bits. -/
theorem advance?_eq_none_iff {item : Item} {offset : UInt32} :
    item.advance? offset = none ↔ UInt32.size ≤ item.start + offset.toNat := by
  rw [Option.eq_none_iff_forall_ne_some]
  constructor
  · intro h
    refine Nat.le_of_not_lt fun hlt => ?_
    have hposition : (UInt32.ofNat (item.start + offset.toNat)).toNat =
        item.start + offset.toNat := UInt32.toNat_ofNat_of_lt' (by omega)
    exact h _ (advance?_eq_some_iff.2 ⟨_, hposition, rfl⟩)
  · intro hle address h
    obtain ⟨position, hposition, -⟩ := advance?_eq_some_iff.1 h
    have hlt : position.toNat < UInt32.size := position.toNat_lt
    omega

/-- Within the item only the address can be missing: the end does not overflow, and the offset fits
in 32 bits. -/
theorem slice_of_le {item : Item} {offset length : UInt64} (hpos : 0 < length.toNat)
    (hle : offset.toNat + length.toNat ≤ item.count.toNat) :
    item.slice offset length =
      match item.advance? offset.toUInt32 with
      | none => .error (.planMismatch .addressOverflow)
      | some (byteAddress, bitAddress) =>
          .ok { item with byteAddress, bitAddress, count := length.toUInt32 } := by
  have hcount := item.count.toNat_lt
  have hstop : Word.add64? offset length = some (offset + length) :=
    Word.add64?_eq_some_iff.2 (by rw [UInt64.toNat_add, Nat.mod_eq_of_lt (by omega)])
  have hmoved : Word.ofNat32? offset.toNat = some offset.toUInt32 := by
    rw [Word.ofNat32?_eq_some_iff, toNat_toUInt32_of_le hle]
  have hrange : ¬(length = 0 ∨ item.count.toUInt64 < offset + length) := by
    rw [Word.add64?_eq_some_iff] at hstop
    rw [UInt64.lt_iff_toNat_lt, hstop, UInt32.toNat_toUInt64]
    rintro (rfl | h)
    · contradiction
    · omega
  cases haddress : item.advance? offset.toUInt32 with
  | none => simp only [slice, hstop, hrange, hmoved, haddress, ↓reduceIte]
  | some address =>
      obtain ⟨byteAddress, bitAddress⟩ := address
      simp only [slice, hstop, hrange, hmoved, haddress, ↓reduceIte]

/-- A slice moves the item on by the offset and has the asked length. -/
theorem slice_eq_ok_iff {item sub : Item} {offset length : UInt64} :
    item.slice offset length = .ok sub ↔
      0 < length.toNat ∧ offset.toNat + length.toNat ≤ item.count.toNat ∧
        ∃ position : UInt32, position.toNat = item.start + offset.toNat ∧
          sub = item.relocate position length.toUInt32 := by
  constructor
  · intro h
    unfold slice at h
    split at h
    · contradiction
    · rename_i stop hstop
      split at h
      · contradiction
      · rename_i hrange
        split at h
        · contradiction
        · rename_i moved hmoved
          split at h
          · contradiction
          · rename_i byteAddress bitAddress haddress
            obtain ⟨position, hposition, hmove⟩ := advance?_eq_some_iff.1 haddress
            rw [Word.ofNat32?_eq_some_iff.1 hmoved] at hposition
            rw [not_or, UInt64.not_lt, UInt64.le_iff_toNat_le, UInt32.toNat_toUInt64,
              Word.add64?_eq_some_iff.1 hstop] at hrange
            refine ⟨?_, hrange.2, position, hposition, ?_⟩
            · exact Nat.pos_of_ne_zero fun h0 => hrange.1 (UInt64.toNat_inj.1 h0)
            · rw [← Except.ok.inj h]
              unfold relocate
              split at hmove <;> cases hmove <;> simp [*]
  · rintro ⟨hpos, hle, position, hposition, rfl⟩
    have haddress := advance?_eq_some_iff.2
      ⟨position, by rwa [toNat_toUInt32_of_le hle], rfl⟩
    simp only [slice_of_le hpos hle, haddress, relocate]
    split <;> rfl

/-- A range within the item has a slice when its first unit has a number of 32 bits. -/
theorem exists_slice {item : Item} {offset length : UInt64} (hpos : 0 < length.toNat)
    (hle : offset.toNat + length.toNat ≤ item.count.toNat)
    (hstart : item.start + offset.toNat < UInt32.size) :
    ∃ sub, item.slice offset length = .ok sub :=
  ⟨_, slice_eq_ok_iff.2 ⟨hpos, hle, _, UInt32.toNat_ofNat_of_lt' hstart, rfl⟩⟩

/-- A range within the item is refused when its first unit has a larger number. -/
theorem slice_of_size_le {item : Item} {offset length : UInt64} (hpos : 0 < length.toNat)
    (hle : offset.toNat + length.toNat ≤ item.count.toNat)
    (hstart : UInt32.size ≤ item.start + offset.toNat) :
    item.slice offset length = .error (.planMismatch .addressOverflow) := by
  have haddress : item.advance? offset.toUInt32 = none := by
    rwa [advance?_eq_none_iff, toNat_toUInt32_of_le hle]
  rw [slice_of_le hpos hle, haddress]

/-- A slice of a slice is the item moved on by both offsets. It need not fit into the item again:
that it ends within the first slice is enough. -/
theorem slice_eq_ok_iff_of_slice {item sub sub' : Item} {offset length offset' length' : UInt64}
    (h : item.slice offset length = .ok sub) :
    sub.slice offset' length' = .ok sub' ↔
      0 < length'.toNat ∧ offset'.toNat + length'.toNat ≤ length.toNat ∧
        ∃ position : UInt32, position.toNat = item.start + offset.toNat + offset'.toNat ∧
          sub' = item.relocate position length'.toUInt32 := by
  obtain ⟨-, hle, position, hposition, rfl⟩ := slice_eq_ok_iff.1 h
  have hcount := item.count.toNat_lt
  have hlength : length.toUInt32.toNat = length.toNat := by
    rw [UInt64.toNat_toUInt32, Nat.mod_eq_of_lt (by omega)]
  simp only [slice_eq_ok_iff, count_relocate, hlength, start_relocate, hposition,
    relocate_relocate]

/-- A slice is all of itself. -/
theorem slice_zero_of_slice {item sub : Item} {offset length : UInt64}
    (h : item.slice offset length = .ok sub) : sub.slice 0 length = .ok sub := by
  obtain ⟨hpos, -, position, hposition, hsub⟩ := slice_eq_ok_iff.1 h
  refine (slice_eq_ok_iff_of_slice h).2 ⟨hpos, ?_, position, ?_, hsub⟩
  · simp
  · simpa using hposition

end S7Request.Item
