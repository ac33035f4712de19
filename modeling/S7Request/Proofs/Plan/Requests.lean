import S7Request.Plan.Basic
import S7Request.Proofs.Item.Slice
import S7Request.Proofs.Lists
import S7Request.Proofs.Memory.Basic

/-!
# Requests

The requests of a plan are the slices that its chunks stand for, telegram by telegram. The slice of
a chunk begins at the chunk's offset in the item and has the chunk's size.
-/
namespace S7Request

namespace Item

variable {item sub : Item} {offset length : UInt64}

theorem location_relocate (item : Item) (position count : UInt32) :
    (item.relocate position count).location =
      { item.location with position := position.toNat } := by
  simp [location, start_relocate]

theorem location_of_slice (h : item.slice offset length = .ok sub) :
    sub.location = item.location.shift offset.toNat := by
  obtain ⟨-, -, position, hposition, rfl⟩ := slice_eq_ok_iff.1 h
  rw [location_relocate, hposition]
  rfl

theorem toNat_count_of_slice (h : item.slice offset length = .ok sub) :
    sub.count.toNat = length.toNat := by
  obtain ⟨-, hle, position, -, rfl⟩ := slice_eq_ok_iff.1 h
  have hcount := item.count.toNat_lt
  rw [count_relocate, UInt64.toNat_toUInt32, Nat.mod_eq_of_lt (by omega)]

theorem add_le_count_of_slice (h : item.slice offset length = .ok sub) :
    offset.toNat + length.toNat ≤ item.count.toNat :=
  (slice_eq_ok_iff.1 h).2.1

end Item

namespace Plan

variable {d : Direction} {plan : Plan d} {items : List Item} {c : Chunk} {sub : Item}

/-- A chunk asks for its slice of one of the items. -/
def Sends (items : List Item) (c : Chunk) (sub : Item) : Prop :=
  ∃ item, items[c.tagIndex]? = some item ∧ item.slice c.offset c.chunkSize = .ok sub

theorem chunkItem_eq_ok_iff : chunkItem items c = .ok sub ↔ Sends items c sub := by
  unfold Sends chunkItem
  cases items[c.tagIndex]? <;> simp

theorem requests_eq_ok_iff {rs : List (List Item)} :
    plan.requests = .ok rs ↔
      List.Forall₂ (fun g r => List.Forall₂ (Sends plan.items) g.chunks r) plan.groups rs := by
  simp only [requests, mapM_eq_ok_iff, chunkItem_eq_ok_iff]

/-- The chunks of all telegrams ask for the items of all telegrams. -/
theorem sends_flatten {rs : List (List Item)} (h : plan.requests = .ok rs) :
    List.Forall₂ (Sends plan.items) (plan.groups.flatMap (·.chunks)) rs.flatten := by
  rw [requests_eq_ok_iff] at h
  rw [List.flatMap_def]
  exact List.rel_flatten (List.forall₂_map_left_iff.2 h)

/-- Every telegram asks for as many items as it has chunks. -/
theorem length_of_requests {rs : List (List Item)} (h : plan.requests = .ok rs) :
    plan.groups.map (·.chunks.length) = rs.map List.length :=
  map_eq_map_of_forall₂ ((requests_eq_ok_iff.1 h).imp fun _ _ hsends => hsends.length_eq)

/-- What the chunks of all telegrams ask for are the requests, if these fall into the telegrams as
the chunks do. -/
theorem requests_of_sends_flatten {rs : List (List Item)}
    (h : List.Forall₂ (Sends plan.items) (plan.groups.flatMap (·.chunks)) rs.flatten)
    (hlength : plan.groups.map (·.chunks.length) = rs.map List.length) :
    plan.requests = .ok rs := by
  rw [List.flatMap_def] at h
  have hgrouped := forall₂_of_flatten h (by simpa [Function.comp_def] using hlength)
  exact requests_eq_ok_iff.2 (List.forall₂_map_left_iff.1 hgrouped)

end Plan

end S7Request
