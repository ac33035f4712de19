import S7Request.Plan.Split
import S7Request.Proofs.Lists
import S7Request.Proofs.Plan.Make

/-!
# Payloads

Merging is the inverse of splitting: when the payloads of the chunks are those that the data of the
items is cut into, the buffers hold this data at the end. Over the chunks of one item the buffer
holds the item's data up to where the chunks have come; over the items the buffers are finished one
after the other.
-/
namespace S7Request

/-- Bytes written from an offset on stand before what they do not reach. -/
theorem take_overwrite (data : Bytes) {buffer : Bytes} {offset : ℕ} (h : offset ≤ buffer.length) :
    (overwrite buffer offset data).take (offset + data.length) = buffer.take offset ++ data := by
  rw [overwrite, List.take_append_of_le_length, List.take_of_length_le] <;>
    simp only [List.length_append, List.length_take] <;> omega

namespace Plan

variable {d : Direction} {config : PlannerConfig} {items : List Item} {data : List Bytes}

theorem items_of_make {plan : Plan d} (h : make d config items = .ok plan) :
    plan.items = items := by
  obtain ⟨b, -, -, hitems⟩ := make_eq_ok_iff.1 h
  exact hitems

/-- The chunks of a plan make up its items. -/
theorem cover_of_make {plan : Plan d} (h : make d config items = .ok plan) :
    Cover 0 (plan.items.map (·.count.toNat))
      ((plan.groups.flatMap (·.chunks)).map Chunk.piece) := by
  obtain ⟨b, -, hpack, hitems⟩ := make_eq_ok_iff.1 h
  have hcover := cover_of_pack hpack
  rw [List.map_flatMap, hitems]
  change Cover 0 _ (plan.packing.groups.flatMap Group.pieces)
  simpa [sizes, Function.comp_def] using hcover

/-- Every item has a payload as long as its count. -/
def Fitting (items : List Item) (data : List Bytes) : Prop :=
  List.Forall₂ (fun item bytes => bytes.length = item.count.toNat) items data

theorem split_eq_ok_iff {plan : Plan .write} {payloads : List (List Bytes)} :
    plan.split data = .ok payloads ↔ Fitting plan.items data ∧
      payloads = plan.groups.map fun g => g.chunks.map (chunkPayload data) := by
  rw [Fitting, List.forall₂_iff_zip]
  unfold split
  split
  · rename_i hlength
    exact ⟨fun h => by contradiction, fun h => absurd h.1.1.symm hlength⟩
  · rename_i hlength
    rw [ne_eq, not_not] at hlength
    split
    · rename_i hany
      obtain ⟨⟨item, bytes⟩, hmem, hne⟩ := List.any_eq_true.1 hany
      exact ⟨fun h => by contradiction, fun h => absurd (h.1.2 hmem) (bne_iff_ne.1 hne)⟩
    · rename_i hany
      rw [Except.ok.injEq]
      refine ⟨fun h => ⟨⟨hlength.symm, fun {item bytes} hmem => ?_⟩, h.symm⟩, fun h => h.2.symm⟩
      by_contra hne
      exact hany (List.any_eq_true.2 ⟨(item, bytes), hmem, bne_iff_ne.2 hne⟩)

theorem length_chunkPayload {c : Chunk} {bytes : Bytes} (hdata : data[c.tagIndex]? = some bytes)
    (hle : c.offset.toNat + c.chunkSize.toNat ≤ bytes.length) :
    (chunkPayload data c).length = c.chunkSize.toNat := by
  rw [chunkPayload, hdata, Option.getD_some, List.length_take, List.length_drop]
  omega

/-- Storing the payload of a chunk that lies within its item. -/
theorem storeChunk_chunkPayload {buffers : List Bytes} {c : Chunk} {bytes buffer : Bytes}
    (hdata : data[c.tagIndex]? = some bytes) (hbuffer : buffers[c.tagIndex]? = some buffer)
    (hle : c.offset.toNat + c.chunkSize.toNat ≤ bytes.length) :
    storeChunk buffers c (chunkPayload data c) =
      .ok (buffers.set c.tagIndex (overwrite buffer c.offset.toNat (chunkPayload data c))) := by
  have hlength := length_chunkPayload hdata hle
  simp only [storeChunk, hbuffer, hlength, Nat.lt_irrefl, ↓reduceIte,
    List.take_of_length_le (Nat.le_of_eq hlength)]

/-- The payload of a chunk stands before the rest of its item's payload. -/
theorem chunkPayload_append_drop {c : Chunk} {bytes : Bytes}
    (hdata : data[c.tagIndex]? = some bytes) :
    chunkPayload data c ++ bytes.drop (c.offset.toNat + c.chunkSize.toNat) =
      bytes.drop c.offset.toNat := by
  rw [chunkPayload, hdata, Option.getD_some, ← List.drop_drop, List.take_append_drop]

/-- A stored chunk moves on the place up to which a buffer agrees with its item's data. -/
theorem overwrite_append_drop {buffer bytes : Bytes} {c : Chunk}
    (hdata : data[c.tagIndex]? = some bytes) (hbuffer : buffer.length = bytes.length)
    (hle : c.offset.toNat + c.chunkSize.toNat ≤ bytes.length) :
    (overwrite buffer c.offset.toNat (chunkPayload data c)).take
        (c.offset.toNat + c.chunkSize.toNat) ++ bytes.drop (c.offset.toNat + c.chunkSize.toNat) =
      buffer.take c.offset.toNat ++ bytes.drop c.offset.toNat := by
  have hoffset : c.offset.toNat ≤ buffer.length := by omega
  have htake := take_overwrite (chunkPayload data c) hoffset
  rw [length_chunkPayload hdata hle] at htake
  rw [htake, List.append_assoc, chunkPayload_append_drop hdata]

/-- Over the chunks of one item its buffer is filled with the item's data. -/
theorem foldlM_storeChunk_of_tile {finished rest : List Bytes} {buffer bytes : Bytes}
    {start : ℕ} {cs : List Chunk} (hdata : data[finished.length]? = some bytes)
    (hbuffer : buffer.length = bytes.length)
    (htile : Tile finished.length start (cs.map Chunk.piece) bytes.length) :
    cs.foldlM (fun buffers c => storeChunk buffers c (chunkPayload data c))
        (finished ++ buffer :: rest) =
      .ok (finished ++ (buffer.take start ++ bytes.drop start) :: rest) := by
  induction cs generalizing start buffer with
  | nil =>
      obtain rfl : start = bytes.length := htile
      simp [pure, Except.pure, ← hbuffer]
  | cons c cs ih =>
      obtain ⟨htag, rfl, hle, hrest⟩ := htile.of_cons
      have hown : data[c.tagIndex]? = some bytes := htag ▸ hdata
      have hat : (finished ++ buffer :: rest)[c.tagIndex]? = some buffer := by simp [htag]
      have hpayload := length_chunkPayload hown hle
      have hlength : (overwrite buffer c.offset.toNat (chunkPayload data c)).length =
          bytes.length := by rw [length_overwrite, hbuffer]; omega
      rw [List.foldlM_cons, storeChunk_chunkPayload hown hat hle, htag,
        List.set_append_right _ _ (Nat.le_refl _), Nat.sub_self, List.set_cons_zero]
      change cs.foldlM _ _ = _
      rw [ih hlength hrest, ← overwrite_append_drop hown hbuffer hle]

/-- Over whole items the buffers are filled with their data. -/
theorem foldlM_storeChunk_of_cover (finished : List Bytes) {buffers later : List Bytes}
    {cs : List Chunk} (hdata : data = finished ++ later)
    (hbuffers : List.Forall₂ (fun buffer bytes => buffer.length = bytes.length) buffers later)
    (hcover : Cover finished.length (later.map List.length) (cs.map Chunk.piece)) :
    cs.foldlM (fun buffers c => storeChunk buffers c (chunkPayload data c)) (finished ++ buffers) =
      .ok data := by
  induction hbuffers generalizing finished cs with
  | nil =>
      obtain rfl : cs = [] := List.map_eq_nil_iff.1 hcover
      rw [hdata]
      rfl
  | @cons buffer bytes buffers later hlength _ ih =>
      obtain ⟨own, others, hsplit, htile, hrest⟩ := hcover
      obtain ⟨cs, cs', rfl, rfl, rfl⟩ := List.map_eq_append_iff.1 hsplit
      have hat : data[finished.length]? = some bytes := by simp [hdata]
      rw [List.foldlM_append, foldlM_storeChunk_of_tile hat hlength htile]
      change cs'.foldlM _ _ = _
      rw [List.take_zero, List.nil_append, List.drop_zero, List.append_cons]
      exact ih (finished ++ [bytes]) (by rw [hdata, List.append_cons]) (by simpa using hrest)

theorem storeGroup_map (buffers : List Bytes) (g : Group) (f : Chunk → Bytes) :
    storeGroup buffers g (g.chunks.map f) =
      g.chunks.foldlM (fun buffers c => storeChunk buffers c (f c)) buffers := by
  rw [storeGroup, List.length_map, if_neg (by simp), ← List.map_prod_left_eq_zip, List.foldlM_map]

/-- Responses in the shape of the plan are stored chunk by chunk. -/
theorem merge_map (plan : Plan .read) (f : Chunk → Bytes) :
    plan.merge (plan.groups.map fun g => g.chunks.map f) =
      (plan.groups.flatMap (·.chunks)).foldlM (fun buffers c => storeChunk buffers c (f c))
        (plan.items.map fun item => List.replicate item.count.toNat 0) := by
  rw [merge, List.length_map, if_neg (by simp), ← List.map_prod_left_eq_zip, List.foldlM_map,
    foldlM_flatMap]
  simp only [storeGroup_map]

theorem Fitting.map_length {items : List Item} (h : Fitting items data) :
    items.map (·.count.toNat) = data.map List.length :=
  map_eq_map_of_forall₂ (h.imp fun _ _ => Eq.symm)

/-- Merging what the data of the items is split into gives the data. -/
theorem merge_chunkPayload {plan : Plan .read} (h : make .read config items = .ok plan)
    (hfit : Fitting items data) :
    plan.merge (plan.groups.map fun g => g.chunks.map (chunkPayload data)) = .ok data := by
  have hcover := cover_of_make h
  obtain rfl := items_of_make h
  have hbuffers : List.Forall₂ (fun (buffer bytes : Bytes) => buffer.length = bytes.length)
      (plan.items.map fun item => List.replicate item.count.toNat 0) data := by
    refine List.forall₂_map_left_iff.2 (hfit.imp fun item bytes hlength => ?_)
    rw [List.length_replicate, hlength]
  rw [hfit.map_length] at hcover
  rw [merge_map]
  exact foldlM_storeChunk_of_cover [] rfl hbuffers hcover

end Plan

end S7Request
