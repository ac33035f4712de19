import S7Request.Proofs.Address.Resolve
import S7Request.Proofs.Plan.Make
import S7Request.Proofs.Plan.Requests

/-!
# Items that can be obtained

An item is made from its fields, resolved from an address, sliced off another item, or asked for by
a plan of other items. What a plan asks for is a slice of one of its items, so whatever is derived
from an item in any number of steps is derived by slices. A slice of a valid item is valid and lies
within the item.
-/
namespace S7Request

/-- The plan asks for `sub` by a chunk that it cut from `item`. -/
def Plan.Asks {d : Direction} (plan : Plan d) (item sub : Item) : Prop :=
  ∃ requests g r c, plan.requests = .ok requests ∧ (g, r) ∈ plan.groups.zip requests ∧
    (c, sub) ∈ g.chunks.zip r ∧ plan.items[c.tagIndex]? = some item

namespace Item

/-- The items that can come out of any sequence of operations. -/
inductive Obtainable : Item → Prop
  | made {area : Area} {dbNumber : UInt16} {byteAddress : UInt32} {bitAddress : UInt8}
      {size : TransportSize} {count : UInt32} {item : Item} :
      make area dbNumber byteAddress bitAddress size count = .ok item → Obtainable item
  | resolved {policy : VPolicy} {address : String} {count : UInt32} {size : TransportSize}
      {item : Item} : resolve policy address count size = .ok item → Obtainable item
  | resolvedBytes {policy : VPolicy} {address : String} {count : UInt32} {item : Item} :
      resolveBytes policy address count = .ok item → Obtainable item
  | resolvedBit {policy : VPolicy} {address : String} {item : Item} :
      resolveBit policy address = .ok item → Obtainable item
  | sliced {item sub : Item} {offset length : UInt64} :
      Obtainable item → item.slice offset length = .ok sub → Obtainable sub
  | requested {d : Direction} {config : PlannerConfig} {items : List Item} {plan : Plan d}
      {requests : List (List Item)} {r : List Item} {sub : Item} :
      (∀ item ∈ items, Obtainable item) → Plan.make d config items = .ok plan →
      plan.requests = .ok requests → r ∈ requests → sub ∈ r → Obtainable sub

/-- The items that are derived from an item by slicing and planning, in any number of steps. -/
inductive Derives (ancestor : Item) : Item → Prop
  | self : Derives ancestor ancestor
  | sliced {item sub : Item} {offset length : UInt64} :
      Derives ancestor item → item.slice offset length = .ok sub → Derives ancestor sub
  | requested {d : Direction} {config : PlannerConfig} {items : List Item} {plan : Plan d}
      {item sub : Item} :
      Derives ancestor item → Plan.make d config items = .ok plan → plan.Asks item sub →
      Derives ancestor sub

/-- The units of an item are some of the units of another one, without a gap, and mean the same. -/
structure Within (sub ancestor : Item) : Prop where
  area_eq : sub.area = ancestor.area
  dbNumber_eq : sub.dbNumber = ancestor.dbNumber
  transportSize_eq : sub.transportSize = ancestor.transportSize
  count_pos : 0 < sub.count.toNat
  exists_offset : ∃ offset, offset + sub.count.toNat ≤ ancestor.count.toNat ∧
    ∀ k < sub.count.toNat, sub.location.shift k = ancestor.location.shift (offset + k)

variable {item sub ancestor : Item} {offset length : UInt64}

theorem Valid.within_self (h : item.Valid) : item.Within item := by
  have hcount : item.count.toNat ≠ 0 := by
    intro hzero
    exact h.count_ne_zero (UInt32.toNat_inj.1 hzero)
  refine ⟨rfl, rfl, rfl, Nat.pos_of_ne_zero hcount, 0, ?_, ?_⟩
  · exact Nat.le_of_eq (Nat.zero_add _)
  · intro k _
    rw [Nat.zero_add]

theorem Within.trans (h : sub.Within item) (h' : item.Within ancestor) : sub.Within ancestor := by
  obtain ⟨offset, hle, hunits⟩ := h.exists_offset
  obtain ⟨offset', hle', hunits'⟩ := h'.exists_offset
  refine ⟨h.area_eq.trans h'.area_eq, h.dbNumber_eq.trans h'.dbNumber_eq,
    h.transportSize_eq.trans h'.transportSize_eq, h.count_pos, offset' + offset, by omega, ?_⟩
  intro k hk
  rw [hunits k hk, hunits' (offset + k) (by omega), Nat.add_assoc]

theorem within_of_slice (h : item.slice offset length = .ok sub) : sub.Within item := by
  have hcount := toNat_count_of_slice h
  have hlocation := location_of_slice h
  obtain ⟨hpos, hle, position, -, rfl⟩ := slice_eq_ok_iff.1 h
  refine ⟨area_relocate .., dbNumber_relocate .., transportSize_relocate .., ?_, offset.toNat, ?_,
    ?_⟩
  · omega
  · omega
  · intro k _
    rw [hlocation, Location.shift_shift]

/-- The bit index of an item that is moved is a remainder, or zero where bits are not addressed. -/
theorem bitAddress_relocate_le (item : Item) (position count : UInt32) :
    (item.relocate position count).bitAddress ≤ 7 := by
  unfold relocate
  by_cases hbit : item.transportSize.isBit
  · rw [if_pos hbit, UInt8.le_iff_toNat_le]
    have hlt : position.toNat % 8 < 8 := Nat.mod_lt _ (by decide)
    simp only [UInt32.toNat_toUInt8, UInt32.toNat_mod, UInt32.reduceToNat, UInt8.reduceToNat]
    omega
  · rw [if_neg hbit]
    exact (by decide : (0 : UInt8) ≤ 7)

theorem Valid.of_slice (h : item.Valid) (hslice : item.slice offset length = .ok sub) :
    sub.Valid := by
  have hcount := toNat_count_of_slice hslice
  obtain ⟨hpos, -, position, -, rfl⟩ := slice_eq_ok_iff.1 hslice
  refine ⟨bitAddress_relocate_le .., ?_, ?_, ?_⟩
  · intro hsize
    rw [transportSize_relocate] at hsize
    rw [relocate, if_neg hsize]
  · simpa using h.dbNumber_eq_zero
  · intro hzero
    rw [hzero] at hcount
    exact absurd hcount (Nat.ne_of_lt hpos)

end Item

namespace Plan

variable {d : Direction} {config : PlannerConfig} {items : List Item} {plan : Plan d}
  {item sub : Item}

/-- What a plan asks for is a slice of the item. -/
theorem Asks.exists_slice (h : plan.Asks item sub) :
    ∃ offset length, item.slice offset length = .ok sub := by
  obtain ⟨requests, g, r, c, hrequests, hgroup, hchunk, hitem⟩ := h
  have hgroups := List.forall₂_iff_zip.1 (requests_eq_ok_iff.1 hrequests)
  have hchunks := List.forall₂_iff_zip.1 (hgroups.2 hgroup)
  obtain ⟨item', hitem', hslice⟩ := hchunks.2 hchunk
  obtain rfl : item = item' := Option.some.inj (hitem.symm.trans hitem')
  exact ⟨c.offset, c.chunkSize, hslice⟩

/-- Every request of a plan is asked for by a chunk of one of its items. -/
theorem exists_asks_of_mem {requests : List (List Item)}
    (hrequests : plan.requests = .ok requests) {r : List Item} (hr : r ∈ requests)
    (hsub : sub ∈ r) : ∃ item ∈ plan.items, plan.Asks item sub := by
  have hgroups := requests_eq_ok_iff.1 hrequests
  obtain ⟨i, hi⟩ := List.mem_iff_getElem?.1 hr
  obtain ⟨g, hg, hchunks⟩ := exists_getElem?_of_forall₂ hgroups.flip hi
  obtain ⟨k, hk⟩ := List.mem_iff_getElem?.1 hsub
  obtain ⟨c, hc, item, hitem, -⟩ := exists_getElem?_of_forall₂ (List.Forall₂.flip hchunks) hk
  refine ⟨item, List.mem_of_getElem? hitem, requests, g, r, c, hrequests, ?_, ?_, hitem⟩
  · exact List.mem_of_getElem? (List.getElem?_zip_eq_some.2 ⟨hg, hi⟩)
  · exact List.mem_of_getElem? (List.getElem?_zip_eq_some.2 ⟨hc, hk⟩)

end Plan

namespace Item

variable {item sub : Item}

theorem Obtainable.valid (h : item.Obtainable) : item.Valid := by
  induction h with
  | made h => exact valid_of_make h
  | resolved h => exact Grammar.valid_of_resolve h
  | resolvedBytes h => exact Grammar.valid_of_resolve h
  | resolvedBit h => exact Grammar.valid_of_resolve h
  | sliced _ hslice hvalid => exact hvalid.of_slice hslice
  | requested _ hplan hrequests hr hsub hvalid =>
      obtain ⟨item, hitem, hasks⟩ := Plan.exists_asks_of_mem hrequests hr hsub
      obtain ⟨b, -, -, hitems⟩ := Plan.make_eq_ok_iff.1 hplan
      obtain ⟨offset, length, hslice⟩ := hasks.exists_slice
      exact (hvalid item (hitems ▸ hitem)).of_slice hslice

/-- Whatever is derived from a valid item is valid and lies within it. -/
theorem Derives.valid_and_within (h : item.Derives sub) (hvalid : item.Valid) :
    sub.Valid ∧ sub.Within item := by
  induction h with
  | self => exact ⟨hvalid, hvalid.within_self⟩
  | sliced _ hslice ih => exact ⟨ih.1.of_slice hslice, (within_of_slice hslice).trans ih.2⟩
  | requested _ _ hasks ih =>
      obtain ⟨offset, length, hslice⟩ := hasks.exists_slice
      exact ⟨ih.1.of_slice hslice, (within_of_slice hslice).trans ih.2⟩

/-- Every item that can be obtained is valid, and whatever is derived from it is valid, too, and
lies within it. -/
theorem valid_of_obtainable (h : item.Obtainable) :
    item.Valid ∧ ∀ sub, item.Derives sub → sub.Valid ∧ sub.Within item :=
  ⟨h.valid, fun _ hsub => hsub.valid_and_within h.valid⟩

/-- Twenty bits that begin within an input byte. -/
def inputBits : Item :=
  ⟨.inputs, 0, 1, 3, .bit, 20⟩

/-- Four bits that a plan asks for, of a slice of resolved bits. -/
theorem derives_inputBits : inputBits.Derives ⟨.inputs, 0, 2, 4, .bit, 4⟩ := by
  have hslice : inputBits.slice 5 14 = .ok ⟨.inputs, 0, 2, 0, .bit, 14⟩ := by decide +kernel
  have hsent : (Plan.make .write ⟨0, none, some ⟨9, 5, 0⟩⟩ [⟨.inputs, 0, 2, 0, .bit, 14⟩] >>=
      Plan.requests) = .ok [[⟨.inputs, 0, 2, 0, .bit, 4⟩], [⟨.inputs, 0, 2, 4, .bit, 4⟩],
        [⟨.inputs, 0, 3, 0, .bit, 4⟩], [⟨.inputs, 0, 3, 4, .bit, 2⟩]] := by decide +kernel
  obtain ⟨plan, hplan, hrequests⟩ := bind_eq_ok_iff.1 hsent
  have hgroup : (Plan.make .write ⟨0, none, some ⟨9, 5, 0⟩⟩
      [⟨.inputs, 0, 2, 0, .bit, 14⟩]).map (·.groups[1]?) =
        .ok (some ⟨[⟨0, 14, 4, 4, 5, 0⟩]⟩) := by decide +kernel
  rw [hplan] at hgroup
  obtain ⟨b, -, -, hitems⟩ := Plan.make_eq_ok_iff.1 hplan
  refine (Derives.self.sliced hslice).requested hplan
    ⟨_, ⟨[⟨0, 14, 4, 4, 5, 0⟩]⟩, [⟨.inputs, 0, 2, 4, .bit, 4⟩], ⟨0, 14, 4, 4, 5, 0⟩, hrequests, ?_,
      ?_, ?_⟩
  · exact List.mem_of_getElem? (List.getElem?_zip_eq_some.2 ⟨Except.ok.inj hgroup, rfl⟩)
  · exact List.mem_singleton_self _
  · rw [hitems]
    rfl

/-- The resolved bits, and the four of them. -/
theorem valid_of_obtainable_bits :
    resolve .reject " i1.3" 20 .bit = .ok inputBits ∧
      inputBits.Derives ⟨.inputs, 0, 2, 4, .bit, 4⟩ ∧
      inputBits.Valid ∧ (⟨.inputs, 0, 2, 4, .bit, 4⟩ : Item).Valid ∧
      (⟨.inputs, 0, 2, 4, .bit, 4⟩ : Item).Within inputBits := by
  have hresolve : resolve .reject " i1.3" 20 .bit = .ok inputBits := by decide +kernel
  obtain ⟨hvalid, hderived⟩ := valid_of_obtainable (.resolved hresolve)
  exact ⟨hresolve, derives_inputBits, hvalid, hderived _ derives_inputBits⟩

end Item

end S7Request
