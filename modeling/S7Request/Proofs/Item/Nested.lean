import S7Request.Proofs.Plan.Requests
import Mathlib.Algebra.BigOperators.Group.List.Basic
import Mathlib.Algebra.GroupWithZero.Nat

/-!
# Slices of slices

A range of a slice is a range of the item, moved on by the offset of the slice. Slicing twice is
slicing once by both offsets, also where the outcome is an error: the address is computed anew for
every slice, and it overflows for the second one when it does so for the item. A chain of ranges,
each within the one before, is therefore one range.
-/
namespace S7Request.Item

variable {item sub : Item} {offset length offset' length' : UInt64}

/-- The offsets of a range of an item and of a range of that range do not wrap when added. -/
theorem toNat_add_of_le (hle : offset.toNat + length.toNat ≤ item.count.toNat)
    (hle' : offset'.toNat + length'.toNat ≤ length.toNat) :
    (offset + offset').toNat = offset.toNat + offset'.toNat := by
  have hcount := item.count.toNat_lt
  rw [UInt64.toNat_add, Nat.mod_eq_of_lt (by omega)]

/-- A range of a slice has the outcome of the range of the item that lies as much further on. -/
theorem slice_of_slice (h : item.slice offset length = .ok sub) (hpos : 0 < length'.toNat)
    (hle : offset'.toNat + length'.toNat ≤ length.toNat) :
    sub.slice offset' length' = item.slice (offset + offset') length' := by
  have hcount := toNat_count_of_slice h
  have hrange := add_le_count_of_slice h
  have hsum := toNat_add_of_le hrange hle
  have hstart : sub.start = item.start + offset.toNat :=
    congrArg Location.position (location_of_slice h)
  have hitem : (offset + offset').toNat + length'.toNat ≤ item.count.toNat := by omega
  by_cases hnumber : item.start + (offset + offset').toNat < UInt32.size
  · obtain ⟨sub', hsub'⟩ := exists_slice hpos hitem hnumber
    obtain ⟨-, -, position, hposition, he⟩ := slice_eq_ok_iff.1 hsub'
    rw [hsub', slice_eq_ok_iff_of_slice h]
    exact ⟨hpos, hle, position, by omega, he⟩
  · have hsize := Nat.le_of_not_lt hnumber
    rw [slice_of_size_le hpos hitem hsize]
    exact slice_of_size_le hpos (by omega) (by omega)

/-- Where a range begins too late for a number, so does every range of it. -/
theorem slice_bind_slice (hpos : 0 < length'.toNat)
    (hle : offset'.toNat + length'.toNat ≤ length.toNat)
    (hrange : offset.toNat + length.toNat ≤ item.count.toNat) :
    (item.slice offset length >>= fun sub => sub.slice offset' length') =
      item.slice (offset + offset') length' := by
  have hsum := toNat_add_of_le hrange hle
  by_cases hnumber : item.start + offset.toNat < UInt32.size
  · obtain ⟨sub, hsub⟩ := exists_slice (by omega) hrange hnumber
    rw [hsub]
    exact slice_of_slice hsub hpos hle
  · have hsize := Nat.le_of_not_lt hnumber
    rw [slice_of_size_le (by omega) hrange hsize]
    exact (slice_of_size_le hpos (by omega) (by omega)).symm

/-- A range of units, counted from the start of an item. -/
structure Range where
  offset : UInt64
  length : UInt64
  deriving DecidableEq, Repr

/-- The slice by the first range, then the slice of that by the second one, and so on. -/
def sliceAll (item : Item) (ranges : List Range) : Except Error Item :=
  ranges.foldlM (fun item r => item.slice r.offset r.length) item

/-- No range is empty, and each lies within the units of the one before, the first one within
`count` units. -/
def Nested (count : ℕ) : List Range → Prop
  | [] => True
  | r :: rest =>
      0 < r.length.toNat ∧ r.offset.toNat + r.length.toNat ≤ count ∧ Nested r.length.toNat rest

instance decidableNested (count : ℕ) : (ranges : List Range) → Decidable (Nested count ranges)
  | [] => isTrue trivial
  | r :: rest =>
      have := decidableNested r.length.toNat rest
      inferInstanceAs (Decidable (_ ∧ _ ∧ Nested r.length.toNat rest))

theorem sliceAll_cons (item : Item) (r : Range) (rest : List Range) :
    item.sliceAll (r :: rest) = item.slice r.offset r.length >>= (sliceAll · rest) :=
  List.foldlM_cons ..

/-- Two nested ranges at the front of a chain are one. -/
theorem sliceAll_cons_cons {r r' : Range} {rest : List Range}
    (h : Nested item.count.toNat (r :: r' :: rest)) :
    item.sliceAll (r :: r' :: rest) = item.sliceAll (⟨r.offset + r'.offset, r'.length⟩ :: rest) ∧
      Nested item.count.toNat (⟨r.offset + r'.offset, r'.length⟩ :: rest) ∧
      (r.offset + r'.offset).toNat = r.offset.toNat + r'.offset.toNat := by
  obtain ⟨-, hrange, hpos, hle, hrest⟩ := h
  have hsum := toNat_add_of_le hrange hle
  refine ⟨?_, ⟨hpos, ?_, hrest⟩, hsum⟩
  · calc
      item.sliceAll (r :: r' :: rest)
        = item.slice r.offset r.length >>= fun sub =>
            sub.slice r'.offset r'.length >>= (sliceAll · rest) := by
          simp only [sliceAll_cons]
      _ = (item.slice r.offset r.length >>= fun sub => sub.slice r'.offset r'.length) >>=
            (sliceAll · rest) := by
          rw [bind_assoc]
      _ = item.slice (r.offset + r'.offset) r'.length >>= (sliceAll · rest) := by
          rw [slice_bind_slice hpos hle hrange]
      _ = item.sliceAll (⟨r.offset + r'.offset, r'.length⟩ :: rest) := by
          rw [sliceAll_cons]
  · change (r.offset + r'.offset).toNat + r'.length.toNat ≤ item.count.toNat
    omega

/-- A chain of nested ranges is one range, as long as the last of them and as far on as all of them
together. -/
theorem exists_sliceAll_eq {r : Range} {rest : List Range}
    (h : Nested item.count.toNat (r :: rest)) :
    ∃ offset : UInt64, offset.toNat = ((r :: rest).map (·.offset.toNat)).sum ∧
      item.sliceAll (r :: rest) =
        item.slice offset ((r :: rest).getLast (List.cons_ne_nil r rest)).length := by
  induction rest generalizing r with
  | nil =>
      refine ⟨r.offset, by simp, ?_⟩
      rw [sliceAll_cons]
      exact bind_pure (item.slice r.offset r.length)
  | cons r' rest ih =>
      obtain ⟨hmerged, hnested, hsum⟩ := sliceAll_cons_cons h
      obtain ⟨offset, hoffset, hslice⟩ := ih hnested
      refine ⟨offset, ?_, ?_⟩
      · rw [hoffset]
        simp only [List.map_cons, List.sum_cons, hsum]
        omega
      · rw [hmerged, hslice]
        cases rest <;> rfl

/-- Slicing a slice is slicing the item once by both offsets, whether there is a slice or an error,
and a chain of nested ranges of any length is one range. -/
theorem slices_compose (item : Item) :
    (∀ offset length offset' length' : UInt64, 1 ≤ length'.toNat →
      offset'.toNat + length'.toNat ≤ length.toNat →
      offset.toNat + length.toNat ≤ item.count.toNat →
        (offset + offset').toNat = offset.toNat + offset'.toNat ∧
        (item.slice offset length >>= fun sub => sub.slice offset' length') =
          item.slice (offset + offset') length') ∧
    ∀ r rest, Nested item.count.toNat (r :: rest) →
      ∃ offset : UInt64, offset.toNat = ((r :: rest).map (·.offset.toNat)).sum ∧
        item.sliceAll (r :: rest) =
          item.slice offset ((r :: rest).getLast (List.cons_ne_nil r rest)).length := by
  constructor
  · intro offset length offset' length' hpos hle hrange
    exact ⟨toNat_add_of_le hrange hle, slice_bind_slice hpos hle hrange⟩
  · intro r rest h
    exact exists_sliceAll_eq h

/-- Bits that are cut three times, with a carry into the byte each time, and a cut after the last
bit that has a number. -/
theorem slices_compose_bits :
    Nested 100 [⟨9, 90⟩, ⟨15, 60⟩, ⟨23, 5⟩] ∧
      (⟨.inputs, 0, 7, 5, .bit, 100⟩ : Item).sliceAll [⟨9, 90⟩, ⟨15, 60⟩, ⟨23, 5⟩] =
        .ok ⟨.inputs, 0, 13, 4, .bit, 5⟩ ∧
      ((⟨.flags, 0, 0x1FFFFFFF, 5, .bit, 100⟩ : Item).slice 2 9 >>= fun sub => sub.slice 1 8) =
        (⟨.flags, 0, 0x1FFFFFFF, 5, .bit, 100⟩ : Item).slice 3 8 := by
  have hnested : Nested 100 [⟨9, 90⟩, ⟨15, 60⟩, ⟨23, 5⟩] := by decide
  obtain ⟨offset, hoffset, hslice⟩ :=
    (slices_compose ⟨.inputs, 0, 7, 5, .bit, 100⟩).2 ⟨9, 90⟩ [⟨15, 60⟩, ⟨23, 5⟩] hnested
  obtain rfl : offset = 47 := UInt64.toNat_inj.1 hoffset
  refine ⟨hnested, hslice.trans (by decide), ?_⟩
  exact ((slices_compose ⟨.flags, 0, 0x1FFFFFFF, 5, .bit, 100⟩).1 2 9 1 8
    (by decide) (by decide) (by decide)).2

end S7Request.Item
