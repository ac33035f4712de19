import S7Request.Proofs.Plan.Payload
import S7Request.Proofs.Plan.Requests

/-!
# Exchanges

Exchanging the telegrams of a plan is exchanging the items as wholes. A chunk's payload goes to
where the chunk's slice of the item lies, so the chunks of one item write the item's data run by
run, and what a chunk reads is the payload that the item's bytes would be cut into.
-/
namespace S7Request

open Plan

namespace Memory

variable {items : List Item} {data : List Bytes}

theorem take_drop_read (m : Memory) (loc : Location) {k j n : ℕ} (h : k + j ≤ n) :
    ((m.read loc n).drop k).take j = m.read (loc.shift k) j := by
  obtain ⟨r, rfl⟩ := Nat.exists_eq_add_of_le h
  rw [Nat.add_assoc, read_add, List.drop_left' (length_read _ _ _), read_add,
    List.take_left' (length_read _ _ _)]

/-- What a chunk reads is its part of what its item reads. -/
theorem fetch_of_sends (m : Memory) {c : Chunk} {sub : Item} (h : Sends items c sub) :
    m.fetch sub = chunkPayload (items.map m.fetch) c := by
  obtain ⟨item, hitem, hslice⟩ := h
  have hle := Item.add_le_count_of_slice hslice
  rw [chunkPayload, List.getElem?_map, hitem, Option.map_some, Option.getD_some, fetch, fetch,
    take_drop_read m _ hle, Item.location_of_slice hslice, Item.toNat_count_of_slice hslice]

/-- The chunks of one item write the item's data from where they begin. -/
theorem storeAll_of_tile (m : Memory) {item : Item} {bytes : Bytes} {tag start : ℕ}
    {cs : List Chunk} {subs : List Item} (hitem : items[tag]? = some item)
    (hdata : data[tag]? = some bytes) (hsends : List.Forall₂ (Sends items) cs subs)
    (htile : Tile tag start (cs.map Chunk.piece) bytes.length) :
    m.storeAll subs (cs.map (chunkPayload data)) =
      m.write (item.location.shift start) (bytes.drop start) := by
  induction hsends generalizing m start with
  | nil =>
      obtain rfl : start = bytes.length := htile
      rw [List.drop_length]
      rfl
  | @cons c sub cs subs hsend _ ih =>
      obtain ⟨rfl, rfl, hle, hrest⟩ := htile.of_cons
      obtain ⟨item', hitem', hslice⟩ := hsend
      obtain rfl : item = item' := Option.some.inj (hitem.symm.trans hitem')
      have hlength := length_chunkPayload hdata hle
      rw [List.map_cons, storeAll_cons, ih _ hrest, store, Item.location_of_slice hslice,
        ← chunkPayload_append_drop hdata, write_append, Location.shift_shift, hlength]

/-- The chunks of all items write the items' data, one item after the other. -/
theorem storeAll_of_cover (m : Memory) (earlier : List Item) (written : List Bytes)
    {later : List Item} {unwritten : List Bytes} {cs : List Chunk} {subs : List Item}
    (hitems : items = earlier ++ later) (hdata : data = written ++ unwritten)
    (hlength : earlier.length = written.length) (hfit : Fitting later unwritten)
    (hsends : List.Forall₂ (Sends items) cs subs)
    (hcover : Cover written.length (unwritten.map List.length) (cs.map Chunk.piece)) :
    m.storeAll subs (cs.map (chunkPayload data)) = m.storeAll later unwritten := by
  induction hfit generalizing m earlier written cs subs with
  | nil =>
      obtain rfl : cs = [] := List.map_eq_nil_iff.1 hcover
      rw [List.forall₂_nil_left_iff.1 hsends]
      rfl
  | @cons item bytes later unwritten _ _ ih =>
      obtain ⟨own, others, hsplit, htile, hrest⟩ := hcover
      obtain ⟨cs, cs', rfl, rfl, rfl⟩ := List.map_eq_append_iff.1 hsplit
      obtain ⟨subs, subs', rfl, hsubs, hsubs'⟩ := forall₂_append_left hsends
      have hitem : items[written.length]? = some item := by simp [hitems, ← hlength]
      have hown : data[written.length]? = some bytes := by simp [hdata]
      have hsame : subs.length = (cs.map (chunkPayload data)).length := by
        rw [List.length_map, hsubs.length_eq]
      rw [List.map_append, storeAll_append m hsame, storeAll_of_tile m hitem hown hsubs htile,
        storeAll_cons, List.drop_zero, Location.shift_zero]
      refine ih (m.store item bytes) (earlier ++ [item]) (written ++ [bytes]) ?_ ?_ ?_ hsubs' ?_
      · rw [hitems, List.append_cons]
      · rw [hdata, List.append_cons]
      · simp [hlength]
      · simpa using hrest

end Memory

variable {config : PlannerConfig} {items : List Item} {data : List Bytes}

theorem fitting_of_sends (hfit : Fitting items data) {cs : List Chunk} {subs : List Item}
    (hsends : List.Forall₂ (Sends items) cs subs) : Fitting subs (cs.map (chunkPayload data)) := by
  refine List.forall₂_map_right_iff.2 (hsends.flip.imp fun sub c hsend => ?_)
  obtain ⟨item, hitem, hslice⟩ := hsend
  obtain ⟨bytes, hbytes, hlength⟩ := exists_getElem?_of_forall₂ hfit hitem
  have hle := Item.add_le_count_of_slice hslice
  rw [← hlength] at hle
  rw [length_chunkPayload hbytes hle, Item.toNat_count_of_slice hslice]

/-- Every telegram carries one payload for each item, as long as the item's count. -/
theorem fitting_of_split {plan : Plan .write} {requests : List (List Item)}
    {payloads : List (List Bytes)} (hrequests : plan.requests = .ok requests)
    (hsplit : plan.split data = .ok payloads) : List.Forall₂ Fitting requests payloads := by
  obtain ⟨hfit, rfl⟩ := split_eq_ok_iff.1 hsplit
  refine List.forall₂_map_right_iff.2 ((requests_eq_ok_iff.1 hrequests).flip.imp fun r g h => ?_)
  exact fitting_of_sends hfit h

/-- Writing the telegrams of a plan is writing the items. -/
theorem storeTelegrams_of_make {plan : Plan .write} (hmake : make .write config items = .ok plan)
    {requests : List (List Item)} {payloads : List (List Bytes)}
    (hrequests : plan.requests = .ok requests) (hsplit : plan.split data = .ok payloads)
    (m : Memory) : m.storeTelegrams requests payloads = m.storeAll items data := by
  have hcover := cover_of_make hmake
  obtain rfl := items_of_make hmake
  have hshape := fitting_of_split hrequests hsplit
  obtain ⟨hfit, rfl⟩ := split_eq_ok_iff.1 hsplit
  rw [hfit.map_length] at hcover
  rw [Memory.storeTelegrams_eq m (hshape.imp fun _ _ => List.Forall₂.length_eq)]
  have hflat : (plan.groups.map fun g => g.chunks.map (chunkPayload data)).flatten =
      (plan.groups.flatMap (·.chunks)).map (chunkPayload data) := by
    rw [List.map_flatMap, List.flatMap_def]
  rw [hflat]
  exact Memory.storeAll_of_cover m [] [] rfl rfl rfl hfit (sends_flatten hrequests) hcover

/-- Merging what the telegrams of a plan read gives what the items hold. -/
theorem merge_fetch_of_make {plan : Plan .read} (hmake : make .read config items = .ok plan)
    {requests : List (List Item)} (hrequests : plan.requests = .ok requests) (m : Memory) :
    plan.merge (requests.map (·.map m.fetch)) = .ok (items.map m.fetch) := by
  obtain rfl := items_of_make hmake
  have hanswers : requests.map (·.map m.fetch) =
      plan.groups.map fun g => g.chunks.map (chunkPayload (plan.items.map m.fetch)) := by
    refine map_eq_map_of_forall₂ ((requests_eq_ok_iff.1 hrequests).flip.imp fun r g h => ?_)
    exact map_eq_map_of_forall₂ (h.flip.imp fun _ _ => m.fetch_of_sends)
  rw [hanswers]
  refine merge_chunkPayload hmake (List.forall₂_map_right_iff.2 (List.forall₂_same.2 ?_))
  intro item _
  exact Memory.length_read _ _ _

namespace Plan

/-- Every part that is written comes with a payload as long as its count, and the parts leave what
writing each item as a whole leaves, one after the other. -/
def WritesWhole (plan : Plan .write) (items : List Item) : Prop :=
  ∀ (m : Memory) requests data payloads,
    plan.requests = .ok requests → plan.split data = .ok payloads →
      List.Forall₂ Fitting requests payloads ∧
        m.storeTelegrams requests payloads = m.storeAll items data

/-- What is read in parts is merged into the bytes of each item. -/
def ReadsWhole (plan : Plan .read) (items : List Item) : Prop :=
  ∀ (m : Memory) requests, plan.requests = .ok requests →
    plan.merge (requests.map (·.map m.fetch)) = .ok (items.map m.fetch)

/-- Data written through one plan is read through the other. -/
def ReadsBack (reading : Plan .read) (writing : Plan .write) : Prop :=
  ∀ (m : Memory) requests requests' data payloads,
    writing.requests = .ok requests → writing.split data = .ok payloads →
      reading.requests = .ok requests' →
        reading.merge (requests'.map (·.map (m.storeTelegrams requests payloads).fetch)) = .ok data

end Plan

/-- Under every accepted budget, items are written and read in parts as they would be as wholes.
Hence disjoint items that are written under one budget are read back under any other. -/
theorem exchange_items (items : List Item) :
    (∀ (config : PlannerConfig) b, config.budget .write = .ok b →
      ∃ plan, make .write config items = .ok plan ∧ plan.WritesWhole items) ∧
    (∀ (config : PlannerConfig) b, config.budget .read = .ok b →
      ∃ plan, make .read config items = .ok plan ∧ plan.ReadsWhole items) ∧
    (items.Pairwise Item.Disjoint → ∀ config config' writing reading,
      make .write config items = .ok writing → make .read config' items = .ok reading →
        reading.ReadsBack writing) := by
  refine ⟨?_, ?_, ?_⟩
  · intro config b h
    obtain ⟨plan, hmake, -⟩ := exists_make h items
    exact ⟨plan, hmake, fun m _ _ _ hrequests hsplit =>
      ⟨fitting_of_split hrequests hsplit, storeTelegrams_of_make hmake hrequests hsplit m⟩⟩
  · intro config b h
    obtain ⟨plan, hmake, -⟩ := exists_make h items
    exact ⟨plan, hmake, fun m _ hrequests => merge_fetch_of_make hmake hrequests m⟩
  · intro hdisjoint config config' writing reading hwriting hreading m
      requests requests' data payloads hrequests hsplit hrequests'
    have hfit : Fitting items data := items_of_make hwriting ▸ (split_eq_ok_iff.1 hsplit).1
    rw [storeTelegrams_of_make hwriting hrequests hsplit,
      merge_fetch_of_make hreading hrequests', Memory.map_fetch_storeAll m hdisjoint hfit]

/-- Five bytes and four bits that straddle a byte. -/
def byteAndBits : List Item :=
  [⟨.dataBlocks, 1, 10, 0, .byte, 5⟩, ⟨.flags, 0, 3, 6, .bit, 4⟩]

/-- Bytes and bits written by four telegrams are read back by three. -/
theorem exchange_byteAndBits :
    ∃ writing reading requests requests' payloads,
      make .write ⟨0, none, some ⟨8, 5, 0⟩⟩ byteAndBits = .ok writing ∧
      make .read ⟨0, some ⟨7, 3, 2⟩, none⟩ byteAndBits = .ok reading ∧
      writing.requests = .ok requests ∧ requests.length = 4 ∧
      writing.split [[1, 2, 3, 4, 5], [0, 1, 1, 0]] = .ok payloads ∧
      reading.requests = .ok requests' ∧ requests'.length = 3 ∧
      reading.merge (requests'.map (·.map
        (Memory.storeTelegrams (fun _ => 0) requests payloads).fetch)) =
          .ok [[1, 2, 3, 4, 5], [0, 1, 1, 0]] := by
  obtain ⟨hwrite, hread, hback⟩ := exchange_items byteAndBits
  obtain ⟨writing, hwriting, -⟩ := hwrite ⟨0, none, some ⟨8, 5, 0⟩⟩ ⟨8, 5, 0⟩ (by decide)
  obtain ⟨reading, hreading, -⟩ := hread ⟨0, some ⟨7, 3, 2⟩, none⟩ ⟨7, 3, 2⟩ (by decide)
  have hsent : ((make .write ⟨0, none, some ⟨8, 5, 0⟩⟩ byteAndBits).bind requests).map
      List.length = .ok 4 := by decide +kernel
  have hasked : ((make .read ⟨0, some ⟨7, 3, 2⟩, none⟩ byteAndBits).bind requests).map
      List.length = .ok 3 := by decide +kernel
  rw [hwriting] at hsent
  rw [hreading] at hasked
  obtain ⟨rs, hrequests, hfour⟩ := map_eq_ok_iff.1 hsent
  obtain ⟨rs', hrequests', hthree⟩ := map_eq_ok_iff.1 hasked
  have hfit : Fitting writing.items [[1, 2, 3, 4, 5], [0, 1, 1, 0]] := by
    rw [items_of_make hwriting, Fitting]
    decide
  have hsplit := split_eq_ok_iff.2 ⟨hfit, rfl⟩
  exact ⟨writing, reading, rs, rs', _, hwriting, hreading, hrequests, hfour, hsplit, hrequests',
    hthree, hback (by decide) _ _ writing reading hwriting hreading _ rs rs' _ _ hrequests hsplit
      hrequests'⟩

end S7Request
