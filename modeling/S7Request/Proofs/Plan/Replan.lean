import S7Request.Proofs.Packing.Repack
import S7Request.Proofs.Plan.Make
import S7Request.Proofs.Plan.Requests

/-!
# Planning the requests of a plan

The requests of a plan are items themselves. When they are planned again, each goes whole into the
telegram that it was in, and the slice of it that is asked for is itself. So a plan of the requests
asks for what the first plan asked for, telegram by telegram.
-/
namespace S7Request

namespace Plan

variable {d : Direction} {config : PlannerConfig} {items : List Item} {plan : Plan d}
  {requests : List (List Item)} {c : Chunk} {sub : Item}

/-- A chunk carries all of an item. -/
structure Whole (items : List Item) (c : Chunk) (item : Item) : Prop where
  getElem?_eq : items[c.tagIndex]? = some item
  offset_eq : c.offset = 0
  chunkSize_eq : c.chunkSize = item.count.toUInt64
  requestSize_eq : c.requestSize = item.count.toUInt64

theorem Whole.isPartial_eq {item : Item} (h : Whole items c item) : c.isPartial = false := by
  rw [Chunk.isPartial, h.chunkSize_eq, h.requestSize_eq, decide_eq_false_iff_not]
  exact UInt64.lt_irrefl _

/-- The slice of a whole item is the item. -/
theorem Whole.sends {item : Item} (h : Whole items c item)
    (hslice : item.slice 0 item.count.toUInt64 = .ok item) : Sends items c item := by
  refine ⟨item, h.getElem?_eq, ?_⟩
  rw [h.offset_eq, h.chunkSize_eq, hslice]

theorem Sends.toUInt64_count (h : Sends items c sub) : sub.count.toUInt64 = c.chunkSize := by
  obtain ⟨item, -, hslice⟩ := h
  have hcount := Item.toNat_count_of_slice hslice
  rw [← UInt64.toNat_inj, UInt32.toNat_toUInt64, hcount]

theorem Sends.slice_self (h : Sends items c sub) :
    sub.slice 0 sub.count.toUInt64 = .ok sub := by
  rw [h.toUInt64_count]
  obtain ⟨item, -, hslice⟩ := h
  exact Item.slice_zero_of_slice hslice

/-- The requests of a plan are as large as its chunks. -/
theorem sizes_flatten (h : plan.requests = .ok requests) :
    sizes requests.flatten = plan.groups.flatMap Group.chunkSizes := by
  have hsizes : (plan.groups.flatMap (·.chunks)).map (·.chunkSize) =
      requests.flatten.map (·.count.toUInt64) :=
    map_eq_map_of_forall₂ ((sends_flatten h).imp fun _ _ hsend => hsend.toUInt64_count.symm)
  rw [sizes, ← hsizes, List.map_flatMap]
  rfl

/-- Every request of a plan can be sliced as a whole. -/
theorem slice_self_of_requests (h : plan.requests = .ok requests) :
    ∀ sub ∈ requests.flatten, sub.slice 0 sub.count.toUInt64 = .ok sub := by
  intro sub hsub
  obtain ⟨i, hi⟩ := List.mem_iff_getElem?.1 hsub
  obtain ⟨c, -, hsend⟩ := exists_getElem?_of_forall₂ (sends_flatten h).flip hi
  exact Sends.slice_self hsend

/-- When a plan has one chunk for each item, as large as the item, every chunk carries its item
whole. -/
theorem forall₂_whole {b : Budget} (hpack : pack d (sizes items) b = .ok plan.packing)
    (hsizes : plan.groups.flatMap Group.chunkSizes = sizes items) :
    List.Forall₂ (Whole items) (plan.groups.flatMap (·.chunks)) items := by
  have hcounts : (plan.groups.flatMap (·.chunks)).map (·.chunkSize) =
      items.map (·.count.toUInt64) := by
    rw [List.map_flatMap]
    exact hsizes
  rw [List.forall₂_iff_get]
  refine ⟨by simpa using congrArg List.length hcounts, fun i hi hi' => ?_⟩
  have hc := List.getElem?_eq_getElem hi
  have hitem := List.getElem?_eq_getElem hi'
  have hcount := congrArg (·[i]?) hcounts
  simp only [List.getElem?_map, hc, hitem, Option.map_some, Option.some.injEq] at hcount
  obtain ⟨htag, hoffset, hwhole⟩ := whole_of_pack hpack hsizes hc
  exact ⟨by rw [List.get_eq_getElem, htag]; exact hitem, hoffset, hcount, hwhole ▸ hcount⟩

/-- Planning the requests of a plan under the same configuration succeeds. Every chunk carries a
whole request, and the plan asks for the same requests in the same telegrams. -/
theorem replan_requests (hplan : make d config items = .ok plan)
    (hrequests : plan.requests = .ok requests) :
    ∃ again, make d config requests.flatten = .ok again ∧
      (∀ g ∈ again.groups, ∀ c ∈ g.chunks,
        c.isPartial = false ∧ ∃ item, Whole requests.flatten c item) ∧
      again.requests = .ok requests := by
  obtain ⟨b, hb, hpack, -⟩ := make_eq_ok_iff.1 hplan
  obtain ⟨packing, hagain, hgroups⟩ := exists_pack_chunkSizes hpack
  -- The second packing is of the chunk sizes of the first, and its groups end at the same places.
  have hsizes : plan.packing.groups.flatMap Group.chunkSizes = sizes requests.flatten :=
    (sizes_flatten hrequests).symm
  rw [hsizes] at hagain
  let again : Plan d := ⟨packing, requests.flatten⟩
  have hwhole : List.Forall₂ (Whole requests.flatten) (again.groups.flatMap (·.chunks))
      requests.flatten := by
    refine forall₂_whole hagain ?_
    rw [← hsizes, List.flatMap_def, List.flatMap_def]
    exact congrArg List.flatten hgroups
  refine ⟨again, make_eq_ok_iff.2 ⟨b, hb, hagain, rfl⟩, ?_, ?_⟩
  · intro g hg c hc
    obtain ⟨i, hi⟩ := List.mem_iff_getElem?.1 (List.mem_flatMap.2 ⟨g, hg, hc⟩)
    obtain ⟨item, -, hitem⟩ := exists_getElem?_of_forall₂ hwhole hi
    exact ⟨hitem.isPartial_eq, item, hitem⟩
  · have hself := (List.forall₂_and_left _ _).2 ⟨slice_self_of_requests hrequests, hwhole.flip⟩
    have hsends : List.Forall₂ (Sends requests.flatten) (again.groups.flatMap (·.chunks))
        requests.flatten := hself.flip.imp fun c item h => h.2.sends h.1
    refine requests_of_sends_flatten hsends ?_
    have hlengths : packing.groups.map (·.chunks.length) =
        plan.packing.groups.map (·.chunks.length) := by
      simpa [Group.chunkSizes, Function.comp_def] using congrArg (List.map List.length) hgroups
    exact hlengths.trans (length_of_requests hrequests)

/-- Bytes and bits that are cut, one group being closed because no payload would have fitted. -/
theorem replan_requests_cut :
    ∃ plan requests again,
      make .read ⟨0, some ⟨7, 3, 2⟩, none⟩
        [⟨.dataBlocks, 1, 10, 0, .byte, 5⟩, ⟨.flags, 0, 3, 6, .bit, 6⟩] = .ok plan ∧
      plan.requests = .ok requests ∧
      requests = [[⟨.dataBlocks, 1, 10, 0, .byte, 4⟩], [⟨.dataBlocks, 1, 14, 0, .byte, 1⟩],
        [⟨.flags, 0, 3, 6, .bit, 4⟩], [⟨.flags, 0, 4, 2, .bit, 2⟩]] ∧
      make .read ⟨0, some ⟨7, 3, 2⟩, none⟩ requests.flatten = .ok again ∧
      (∀ g ∈ again.groups, ∀ c ∈ g.chunks,
        c.isPartial = false ∧ ∃ item, Whole requests.flatten c item) ∧
      again.requests = .ok requests := by
  have hsent : (make .read ⟨0, some ⟨7, 3, 2⟩, none⟩
      [⟨.dataBlocks, 1, 10, 0, .byte, 5⟩, ⟨.flags, 0, 3, 6, .bit, 6⟩] >>= requests) =
      .ok [[⟨.dataBlocks, 1, 10, 0, .byte, 4⟩], [⟨.dataBlocks, 1, 14, 0, .byte, 1⟩],
        [⟨.flags, 0, 3, 6, .bit, 4⟩], [⟨.flags, 0, 4, 2, .bit, 2⟩]] := by decide +kernel
  obtain ⟨plan, hplan, hrequests⟩ := bind_eq_ok_iff.1 hsent
  obtain ⟨again, hagain, hwhole, hsame⟩ := replan_requests hplan hrequests
  exact ⟨plan, _, again, hplan, hrequests, rfl, hagain, hwhole, hsame⟩

end Plan

end S7Request
