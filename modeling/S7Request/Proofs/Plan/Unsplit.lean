import S7Request.Proofs.Item.Obtainable
import S7Request.Proofs.Plan.Addressing
import S7Request.Proofs.Plan.Replan

/-!
# Items that are not cut

The slice of all units of an item is the item. The address is computed anew from the number of the
first unit, and there is no slice where that number does not fit in 32 bits, that is for bits from
byte 2^29 on. When every item of a plan is carried by one chunk, the chunks carry the items whole
and in order, so the plan asks for the items themselves.
-/
namespace S7Request

namespace Item

variable {item : Item}

/-- The number of the first unit fits in 32 bits. Every byte has such a number, a bit only in the
first 2^29 bytes. -/
def Numbered (item : Item) : Prop :=
  item.transportSize.isBit → item.byteAddress < 0x20000000

instance : Decidable item.Numbered :=
  inferInstanceAs (Decidable (_ → _))

theorem Valid.start_lt_iff (h : item.Valid) : item.start < UInt32.size ↔ item.Numbered := by
  have hbit : item.bitAddress.toNat ≤ 7 := UInt8.le_iff_toNat_le.1 h.bitAddress_le
  have hbyte : item.byteAddress.toNat < UInt32.size := item.byteAddress.toNat_lt
  have hlimit : item.byteAddress < 0x20000000 ↔ item.byteAddress.toNat * 8 < UInt32.size := by
    rw [UInt32.lt_iff_toNat_lt]
    simp only [UInt32.reduceToNat, UInt32.size]
    omega
  unfold start Numbered
  by_cases hsize : item.transportSize.isBit
  -- The bit index is below eight, so it does not carry the number over the limit.
  · rw [if_pos hsize, hlimit]
    simp only [UInt32.size] at hbyte ⊢
    constructor
    · intro hstart _
      omega
    · intro hnumbered
      have hfirst := hnumbered hsize
      omega
  · rw [if_neg hsize]
    exact iff_of_true hbyte fun hbits => absurd hbits hsize

/-- A valid item that is moved to where it begins stays as it is. -/
theorem Valid.relocate_self (h : item.Valid) {position : UInt32}
    (hposition : position.toNat = item.start) : item.relocate position item.count = item := by
  have hbit : item.bitAddress.toNat ≤ 7 := UInt8.le_iff_toNat_le.1 h.bitAddress_le
  unfold start at hposition
  unfold relocate
  by_cases hsize : item.transportSize.isBit
  -- Division by eight takes the number apart into what it was made of.
  · rw [if_pos hsize] at hposition
    have hbyteAddress : position / 8 = item.byteAddress := by
      apply UInt32.toNat_inj.1
      rw [UInt32.toNat_div, hposition]
      simp only [UInt32.reduceToNat]
      omega
    have hbitAddress : (position % 8).toUInt8 = item.bitAddress := by
      apply UInt8.toNat_inj.1
      rw [UInt32.toNat_toUInt8, UInt32.toNat_mod, hposition]
      simp only [UInt32.reduceToNat]
      omega
    rw [if_pos hsize, hbyteAddress, hbitAddress]
  · rw [if_neg hsize] at hposition
    rw [if_neg hsize, UInt32.toNat_inj.1 hposition, ← h.bitAddress_eq_zero hsize]

/-- The slice of all units of a valid item is the item, or its first unit has no number. -/
theorem Valid.slice_self (h : item.Valid) :
    item.slice 0 item.count.toUInt64 =
      if item.Numbered then .ok item else .error (.planMismatch .addressOverflow) := by
  have hpos : 0 < item.count.toUInt64.toNat := h.within_self.count_pos
  have hle : (0 : UInt64).toNat + item.count.toUInt64.toNat ≤ item.count.toNat :=
    Nat.le_of_eq (Nat.zero_add _)
  split
  · rename_i hnumbered
    have hposition := UInt32.toNat_ofNat_of_lt' (h.start_lt_iff.2 hnumbered)
    refine slice_eq_ok_iff.2 ⟨hpos, hle, _, hposition, ?_⟩
    rw [UInt32.toUInt32_toUInt64, h.relocate_self hposition]
  · rename_i hnumbered
    rw [← h.start_lt_iff] at hnumbered
    exact slice_of_size_le hpos hle (Nat.le_of_not_lt hnumbered)

end Item

namespace Plan

variable {d : Direction} {config : PlannerConfig} {items : List Item} {plan : Plan d}
  {requests : List (List Item)}

/-- Every item is carried by one chunk. -/
def Unsplit (plan : Plan d) : Prop :=
  ∀ i < plan.items.length, (plan.chunksOf i).length = 1

instance : Decidable plan.Unsplit :=
  inferInstanceAs (Decidable (∀ i < _, _))

/-- The one chunk of an item begins where the item does. -/
theorem Unsplit.offset_eq_zero (hunsplit : plan.Unsplit) (h : make d config items = .ok plan)
    {c : Chunk} (hc : c ∈ plan.groups.flatMap (·.chunks)) : c.offset.toNat = 0 := by
  obtain ⟨g, hg, hmem⟩ := List.mem_flatMap.1 hc
  obtain ⟨item, hitem, -⟩ := inRange_of_make h hg hmem
  obtain ⟨hi, -⟩ := List.getElem?_eq_some_iff.1 hitem
  obtain ⟨c', hone⟩ := List.length_eq_one_iff.1 (hunsplit c.tagIndex hi)
  have hown : c ∈ plan.chunksOf c.tagIndex := mem_chunksOf.2 ⟨⟨g, hg, hmem⟩, rfl⟩
  have htile := tile_chunksOf h hitem
  rw [hone] at hown htile
  obtain rfl := List.mem_singleton.1 hown
  exact htile.2.1

/-- The chunks are as large as the items, one by one. -/
theorem Unsplit.chunkSizes_eq (hunsplit : plan.Unsplit) (h : make d config items = .ok plan)
    (hitems : ∀ item ∈ plan.items, item.Valid) :
    plan.groups.flatMap Group.chunkSizes = sizes plan.items := by
  have hpos : ∀ size ∈ plan.items.map (·.count.toNat), 0 < size := by
    intro size hsize
    obtain ⟨item, hitem, rfl⟩ := List.mem_map.1 hsize
    exact (hitems item hitem).within_self.count_pos
  have hoffset : ∀ p ∈ (plan.groups.flatMap (·.chunks)).map Chunk.piece, p.offset = 0 := by
    intro p hp
    obtain ⟨c, hc, rfl⟩ := List.mem_map.1 hp
    exact hunsplit.offset_eq_zero h hc
  have hlengths := (cover_of_make h).map_length_eq hpos hoffset
  rw [← List.map_inj_right (f := UInt64.toNat) fun _ _ => UInt64.toNat_inj.1]
  simpa [sizes, Group.chunkSizes, Chunk.piece, List.map_flatMap, Function.comp_def] using hlengths

theorem Unsplit.forall₂_whole (hunsplit : plan.Unsplit) (h : make d config items = .ok plan)
    (hitems : ∀ item ∈ plan.items, item.Valid) :
    List.Forall₂ (Whole plan.items) (plan.groups.flatMap (·.chunks)) plan.items := by
  obtain ⟨b, -, hpack, rfl⟩ := make_eq_ok_iff.1 h
  exact Plan.forall₂_whole hpack (hunsplit.chunkSizes_eq h hitems)

theorem Whole.addressable_iff {c : Chunk} {item : Item} (h : Whole items c item) :
    c.Addressable items ↔ item.start < UInt32.size := by
  simp [Chunk.Addressable, h.getElem?_eq, h.offset_eq]

theorem rightUnique_sends (items : List Item) : Relator.RightUnique (Sends items) := by
  rintro c sub sub' ⟨item, hitem, hslice⟩ ⟨item', hitem', hslice'⟩
  obtain rfl : item = item' := Option.some.inj (hitem.symm.trans hitem')
  exact Except.ok.inj (hslice.symm.trans hslice')

/-- A plan that cuts no item has requests when all items have numbers. -/
theorem Unsplit.exists_requests_iff (hunsplit : plan.Unsplit) (h : make d config items = .ok plan)
    (hitems : ∀ item ∈ plan.items, item.Valid) :
    (∃ requests, plan.requests = .ok requests) ↔ ∀ item ∈ plan.items, item.Numbered := by
  have hwhole := hunsplit.forall₂_whole h hitems
  calc
    (∃ requests, plan.requests = .ok requests) ↔
        ∀ g ∈ plan.groups, ∀ c ∈ g.chunks, c.Addressable plan.items := Plan.exists_requests_iff h
    _ ↔ ∀ c ∈ plan.groups.flatMap (·.chunks), c.Addressable plan.items :=
      List.forall_mem_flatMap.symm
    _ ↔ ∀ item ∈ plan.items, item.start < UInt32.size :=
      forall_mem_iff_of_forall₂ hwhole fun _ _ hchunk => hchunk.addressable_iff
    _ ↔ ∀ item ∈ plan.items, item.Numbered :=
      forall₂_congr fun item hitem => (hitems item hitem).start_lt_iff

/-- A plan that cuts no item asks for the items. -/
theorem Unsplit.flatten_requests (hunsplit : plan.Unsplit) (h : make d config items = .ok plan)
    (hitems : ∀ item ∈ plan.items, item.Valid) (hrequests : plan.requests = .ok requests) :
    requests.flatten = plan.items := by
  have hnumbered := (hunsplit.exists_requests_iff h hitems).1 ⟨requests, hrequests⟩
  have hself : ∀ item ∈ plan.items, item.slice 0 item.count.toUInt64 = .ok item := by
    intro item hitem
    rw [(hitems item hitem).slice_self, if_pos (hnumbered item hitem)]
  have hboth := (List.forall₂_and_left _ _).2 ⟨hself, (hunsplit.forall₂_whole h hitems).flip⟩
  have hsends : List.Forall₂ (Sends plan.items) (plan.groups.flatMap (·.chunks)) plan.items :=
    hboth.flip.imp fun c item hitem => hitem.2.sends hitem.1
  exact (rightUnique_sends _).forall₂ (sends_flatten hrequests) hsends

/-- The slice of all units of an item is the item unless the item has no number, and a plan that
cuts no item asks for the items, in order, unless one of them has no number. -/
theorem requests_of_unsplit :
    (∀ item : Item, item.Obtainable → item.slice 0 item.count.toUInt64 =
      if item.Numbered then .ok item else .error (.planMismatch .addressOverflow)) ∧
    ∀ (d : Direction) (config : PlannerConfig) (items : List Item) (plan : Plan d),
      (∀ item ∈ items, item.Obtainable) → make d config items = .ok plan → plan.Unsplit →
        ((∃ requests, plan.requests = .ok requests) ↔ ∀ item ∈ items, item.Numbered) ∧
        (∀ requests, plan.requests = .ok requests → requests.flatten = items) ∧
        ∀ e, plan.requests = .error e → e = .planMismatch .addressOverflow := by
  constructor
  · intro item hitem
    exact hitem.valid.slice_self
  · intro d config items plan hitems h hunsplit
    obtain rfl := items_of_make h
    have hvalid : ∀ item ∈ plan.items, item.Valid := fun item hitem => (hitems item hitem).valid
    refine ⟨hunsplit.exists_requests_iff h hvalid, ?_, ?_⟩
    · intro requests hrequests
      exact hunsplit.flatten_requests h hvalid hrequests
    · intro e he
      exact eq_of_requests_eq_error h he

/-- The last bits and the last byte that have numbers, in one telegram. -/
theorem requests_of_unsplit_last :
    (⟨.flags, 0, 0x1FFFFFFF, 7, .bit, 9⟩ : Item).slice 0 9 =
        .ok ⟨.flags, 0, 0x1FFFFFFF, 7, .bit, 9⟩ ∧
      ∃ plan requests,
        make .write ⟨240, none, none⟩
          [⟨.flags, 0, 0x1FFFFFFF, 7, .bit, 9⟩, ⟨.dataBlocks, 1, 0xFFFFFFFF, 0, .word, 4⟩] =
            .ok plan ∧
        plan.Unsplit ∧ plan.requests = .ok requests ∧
        requests.flatten =
          [⟨.flags, 0, 0x1FFFFFFF, 7, .bit, 9⟩, ⟨.dataBlocks, 1, 0xFFFFFFFF, 0, .word, 4⟩] := by
  have hbits : Item.make .flags 0 0x1FFFFFFF 7 .bit 9 =
      .ok ⟨.flags, 0, 0x1FFFFFFF, 7, .bit, 9⟩ := by decide
  have hword : Item.make .dataBlocks 1 0xFFFFFFFF 0 .word 4 =
      .ok ⟨.dataBlocks, 1, 0xFFFFFFFF, 0, .word, 4⟩ := by decide
  have hplanned : (make .write ⟨240, none, none⟩
      [⟨.flags, 0, 0x1FFFFFFF, 7, .bit, 9⟩, ⟨.dataBlocks, 1, 0xFFFFFFFF, 0, .word, 4⟩]).map
        (fun plan => decide plan.Unsplit) = .ok true := by decide +kernel
  obtain ⟨plan, hplan, hunsplit⟩ := map_eq_ok_iff.1 hplanned
  obtain ⟨hslice, hsent⟩ := requests_of_unsplit
  obtain ⟨hok, hflatten, -⟩ := hsent .write ⟨240, none, none⟩ _ plan
    (by simpa using ⟨.made hbits, .made hword⟩) hplan (of_decide_eq_true hunsplit)
  obtain ⟨requests, hrequests⟩ := hok.2 (by decide)
  refine ⟨?_, plan, requests, hplan, of_decide_eq_true hunsplit, hrequests,
    hflatten requests hrequests⟩
  exact hslice _ (.made hbits)

/-- A bit of the first byte whose bits have no numbers. It can be made and planned, in one chunk,
but it has no slice, and so there is no request for it. -/
theorem slice_refused_of_unsplit :
    Item.make .flags 0 0x20000000 0 .bit 1 = .ok ⟨.flags, 0, 0x20000000, 0, .bit, 1⟩ ∧
      (⟨.flags, 0, 0x20000000, 0, .bit, 1⟩ : Item).slice 0 1 =
        .error (.planMismatch .addressOverflow) ∧
      ∃ plan, make .read ⟨240, none, none⟩ [⟨.flags, 0, 0x20000000, 0, .bit, 1⟩] = .ok plan ∧
        plan.Unsplit ∧ plan.requests = .error (.planMismatch .addressOverflow) := by
  have hplanned : (make .read ⟨240, none, none⟩ [⟨.flags, 0, 0x20000000, 0, .bit, 1⟩]).map
      (fun plan => (decide plan.Unsplit, plan.requests)) =
        .ok (true, .error (.planMismatch .addressOverflow)) := by decide +kernel
  obtain ⟨plan, hplan, hresult⟩ := map_eq_ok_iff.1 hplanned
  obtain ⟨hunsplit, hrequests⟩ := Prod.mk.inj hresult
  exact ⟨by decide, by decide, plan, hplan, of_decide_eq_true hunsplit, hrequests⟩

end Plan

end S7Request
