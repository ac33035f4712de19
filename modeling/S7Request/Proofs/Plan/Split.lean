import S7Request.Proofs.Plan.Bounds

/-!
# Splitting payloads

Payloads are split exactly when there is one for each item, as long as the item. Every chunk then
carries as many bytes as its size says, and the chunks of an item carry the item's payload, one part
after the other.
-/
namespace S7Request.Plan

/-- What the chunks of one item carry, in the order of the groups and of the chunks in each. -/
def gather (groups : List Group) (payloads : List (List Bytes)) (i : ℕ) : Bytes :=
  (((groups.zip payloads).flatMap fun x => x.1.chunks.zip x.2).filter (·.1.tagIndex = i)).flatMap
    (·.2)

/-- The payloads of the telegrams are the data of the items, all of it and nothing else. -/
structure Parted (plan : Plan .write) (data : List Bytes) (payloads : List (List Bytes)) :
    Prop where
  sized : List.Forall₂ (fun g parts => Sized g.chunks parts) plan.groups payloads
  gathered : ∀ i bytes, data[i]? = some bytes → gather plan.groups payloads i = bytes
  flattened : payloads.flatten.flatten = data.flatten

variable {config : PlannerConfig} {items : List Item} {plan : Plan .write} {data : List Bytes}

/-- Payloads in the shape of the groups are gathered chunk by chunk. -/
theorem gather_map (groups : List Group) (f : Chunk → Bytes) (i : ℕ) :
    gather groups (groups.map fun g => g.chunks.map f) i =
      ((groups.flatMap (·.chunks)).filter (·.tagIndex = i)).flatMap f := by
  have hpairs : ((groups.zip (groups.map fun g => g.chunks.map f)).flatMap fun x =>
      x.1.chunks.zip x.2) = (groups.flatMap (·.chunks)).map fun c => (c, f c) := by
    rw [← List.map_prod_left_eq_zip, List.flatMap_map, List.map_flatMap]
    simp only [List.map_prod_left_eq_zip]
  rw [gather, hpairs, List.filter_map, List.flatMap_map]
  rfl

theorem split_of_not_fitting (h : ¬Fitting plan.items data) :
    plan.split data = .error (.planMismatch
      (if data.length = plan.items.length then .payloadLength else .payloadCount)) := by
  by_cases hlength : data.length = plan.items.length
  · have hany : (plan.items.zip data).any fun entry => entry.2.length != entry.1.count.toNat := by
      obtain ⟨item, bytes, hfirst⟩ := exists_firstWithout_zip hlength.symm h
      exact List.any_eq_true.2 ⟨(item, bytes), hfirst.mem, bne_iff_ne.2 hfirst.not_prop⟩
    rw [split, if_neg (not_not.2 hlength), if_pos hany, if_pos hlength]
  · rw [split, if_pos hlength, if_neg hlength]

/-- The payloads that fitting data is split into. -/
theorem parted_of_fitting (h : make .write config items = .ok plan)
    (hfit : Fitting plan.items data) :
    Parted plan data (plan.groups.map fun g => g.chunks.map (chunkPayload data)) where
  sized := by
    refine List.forall₂_map_right_iff.2 (List.forall₂_same.2 fun g hg => ?_)
    refine List.forall₂_map_right_iff.2 (List.forall₂_same.2 fun c hc => ?_)
    obtain ⟨bytes, hbytes, hle⟩ := hfit.exists_getElem? (inRange_of_make h hg hc)
    exact length_chunkPayload hbytes hle
  gathered i bytes hbytes := by
    obtain ⟨item, hitem, hlength⟩ := exists_getElem?_of_forall₂ hfit.flip hbytes
    rw [gather_map, flatMap_chunkPayload_of_tile hbytes (hlength ▸ tile_of_make h hitem),
      List.drop_zero]
  flattened := by
    -- Over all groups the chunks stand in the order of the items.
    have hcover := cover_of_make h
    rw [hfit.map_length] at hcover
    have hall : (plan.groups.flatMap (·.chunks)).flatMap (chunkPayload data) = data.flatten :=
      flatMap_chunkPayload_of_cover [] rfl hcover
    rw [← hall, ← List.flatMap_def, ← List.map_flatMap, ← List.flatMap_def]

/-- Exactly the payloads that fit the items are split, and into all that they hold. No access leaves
its bounds, whatever the payloads are. -/
theorem split_exact (h : make .write config items = .ok plan) (data : List Bytes) :
    plan.split? data = some (plan.split data) ∧
      ((∃ payloads, plan.split data = .ok payloads) ↔ Fitting plan.items data) ∧
      (∀ payloads, plan.split data = .ok payloads → Parted plan data payloads) ∧
      (¬Fitting plan.items data → plan.split data = .error (.planMismatch
        (if data.length = plan.items.length then .payloadLength else .payloadCount))) := by
  refine ⟨split?_eq h data, ⟨?_, ?_⟩, ?_, split_of_not_fitting⟩
  · rintro ⟨payloads, hsplit⟩
    exact (split_eq_ok_iff.1 hsplit).1
  · intro hfit
    exact ⟨_, split_eq_ok_iff.2 ⟨hfit, rfl⟩⟩
  · intro payloads hsplit
    obtain ⟨hfit, rfl⟩ := split_eq_ok_iff.1 hsplit
    exact parted_of_fitting h hfit

/-- Two payloads in three telegrams, the second of which carries the end of the first payload and
the beginning of the second. -/
theorem split_exact_cut :
    ∃ plan, make .write ⟨0, none, some ⟨9, 3, 0⟩⟩
        [⟨.dataBlocks, 1, 10, 0, .byte, 7⟩, ⟨.flags, 0, 3, 0, .byte, 4⟩] = .ok plan ∧
      plan.split? [[1, 2, 3, 4, 5, 6, 7], [8, 9, 10, 11]] =
        some (.ok [[[1, 2, 3, 4, 5, 6]], [[7], [8, 9]], [[10, 11]]]) ∧
      Parted plan [[1, 2, 3, 4, 5, 6, 7], [8, 9, 10, 11]]
        [[[1, 2, 3, 4, 5, 6]], [[7], [8, 9]], [[10, 11]]] ∧
      plan.split? [[1, 2, 3, 4, 5, 6, 7], [8, 9, 10]] =
        some (.error (.planMismatch .payloadLength)) := by
  have hsent : (make .write ⟨0, none, some ⟨9, 3, 0⟩⟩
      [⟨.dataBlocks, 1, 10, 0, .byte, 7⟩, ⟨.flags, 0, 3, 0, .byte, 4⟩] >>=
      fun plan => plan.split [[1, 2, 3, 4, 5, 6, 7], [8, 9, 10, 11]]) =
      .ok [[[1, 2, 3, 4, 5, 6]], [[7], [8, 9]], [[10, 11]]] := by decide +kernel
  obtain ⟨plan, hplan, hsplit⟩ := bind_eq_ok_iff.1 hsent
  obtain ⟨hbounds, -, hparted, -⟩ := split_exact hplan [[1, 2, 3, 4, 5, 6, 7], [8, 9, 10, 11]]
  obtain ⟨hbounds', -, -, hrefused⟩ := split_exact hplan [[1, 2, 3, 4, 5, 6, 7], [8, 9, 10]]
  have hshort : ¬Fitting plan.items [[1, 2, 3, 4, 5, 6, 7], [8, 9, 10]] := by
    rw [items_of_make hplan]
    simp [Fitting]
  refine ⟨plan, hplan, hbounds.trans (congrArg some hsplit), hparted _ hsplit, ?_⟩
  rw [hbounds', hrefused hshort, items_of_make hplan]
  rfl

end S7Request.Plan
