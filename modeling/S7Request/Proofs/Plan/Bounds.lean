import S7Request.Proofs.Plan.Assembly

/-!
# Accesses within bounds

Splitting and merging once more, with every access checked: an index beyond the list, an offset
beyond the largest word and a range that does not lie within the bytes leave no result at all. The
chunks of a plan lie within its items, and the buffers stay as long as the items. So the checked
operations have a result whatever they are given, and it is the unchecked one, be it an error.
-/
namespace S7Request

/-- The bytes between two offsets, absent when these do not lie within the bytes. -/
def slice? (bytes : Bytes) (start stop : ℕ) : Option Bytes :=
  if start ≤ stop ∧ stop ≤ bytes.length then some ((bytes.drop start).take (stop - start)) else none

/-- The buffer with data written between two offsets, absent when these do not lie within the buffer
or the data is not as long as the range. -/
def overwrite? (buffer : Bytes) (start stop : ℕ) (data : Bytes) : Option Bytes :=
  if start ≤ stop ∧ stop ≤ buffer.length ∧ data.length = stop - start then
    some (overwrite buffer start data)
  else none

theorem slice?_of_le {bytes : Bytes} (start : ℕ) {length : ℕ} (h : start + length ≤ bytes.length) :
    slice? bytes start (start + length) = some ((bytes.drop start).take length) := by
  rw [slice?, if_pos ⟨Nat.le_add_right _ _, h⟩, Nat.add_sub_cancel_left]

theorem overwrite?_of_le {buffer data : Bytes} (start : ℕ) {length : ℕ}
    (h : start + length ≤ buffer.length) (hlength : data.length = length) :
    overwrite? buffer start (start + length) data = some (overwrite buffer start data) := by
  rw [overwrite?, if_pos ⟨Nat.le_add_right _ _, h, by rw [hlength, Nat.add_sub_cancel_left]⟩]

/-- The end of a chunk is a word. -/
theorem Chunk.InRange.add64?_eq {items : List Item} {c : Chunk} (h : c.InRange items) :
    Word.add64? c.offset c.chunkSize = some (c.offset + c.chunkSize) ∧
      (c.offset + c.chunkSize).toNat = c.offset.toNat + c.chunkSize.toNat := by
  obtain ⟨item, -, hle⟩ := h
  have hcount := item.count.toNat_lt
  have hadd : (c.offset + c.chunkSize).toNat = c.offset.toNat + c.chunkSize.toNat := by
    rw [UInt64.toNat_add, Nat.mod_eq_of_lt (by omega)]
  exact ⟨Word.add64?_eq_some_iff.2 hadd, hadd⟩

namespace Plan

/-- The part of an item's payload that a chunk carries. -/
def chunkPayload? (payloads : List Bytes) (c : Chunk) : Option Bytes := do
  let bytes ← payloads[c.tagIndex]?
  let stop ← Word.add64? c.offset c.chunkSize
  slice? bytes c.offset.toNat stop.toNat

/-- The payloads that each telegram carries. -/
def split? (plan : Plan .write) (payloads : List Bytes) :
    Option (Except Error (List (List Bytes))) :=
  if payloads.length ≠ plan.items.length then
    some (.error (.planMismatch .payloadCount))
  else if (plan.items.zip payloads).any fun entry => entry.2.length != entry.1.count.toNat then
    some (.error (.planMismatch .payloadLength))
  else do
    let groups ← plan.groups.mapM fun g => g.chunks.mapM (chunkPayload? payloads)
    pure (.ok groups)

/-- Writes the data of one chunk into the buffer of its item. -/
def storeChunk? (buffers : List Bytes) (c : Chunk) (data : Bytes) :
    Option (Except Error (List Bytes)) :=
  if data.length < c.chunkSize.toNat then
    some (.error (.insufficientData c.chunkSize data.length))
  else do
    let buffer ← buffers[c.tagIndex]?
    let stop ← Word.add64? c.offset c.chunkSize
    let part ← slice? data 0 c.chunkSize.toNat
    let written ← overwrite? buffer c.offset.toNat stop.toNat part
    pure (.ok (buffers.set c.tagIndex written))

/-- Writes the response to one telegram into the buffers. -/
def storeGroup? (buffers : List Bytes) (g : Group) (response : List Bytes) :
    Option (Except Error (List Bytes)) :=
  if g.chunks.length ≠ response.length then
    some (.error (.planMismatch .responseItemCount))
  else
    ((g.chunks.zip response).foldlM (fun buffers entry =>
      ExceptT.mk (storeChunk? buffers entry.1 entry.2)) buffers).run

/-- The data of every item, put together from the responses to all telegrams. -/
def merge? (plan : Plan .read) (responses : List (List Bytes)) :
    Option (Except Error (List Bytes)) :=
  if responses.length ≠ plan.groups.length then
    some (.error (.planMismatch .responseCount))
  else
    ((plan.groups.zip responses).foldlM (fun buffers entry =>
      ExceptT.mk (storeGroup? buffers entry.1 entry.2))
      (plan.items.map fun item => List.replicate item.count.toNat 0)).run

variable {config : PlannerConfig} {items : List Item} {data buffers : List Bytes} {c : Chunk}

/-- A chunk within its item lies within the bytes of the item. -/
theorem Fitting.exists_getElem? (hfit : Fitting items data) (hc : c.InRange items) :
    ∃ bytes, data[c.tagIndex]? = some bytes ∧
      c.offset.toNat + c.chunkSize.toNat ≤ bytes.length := by
  obtain ⟨item, hitem, hle⟩ := hc
  obtain ⟨bytes, hbytes, hlength⟩ := exists_getElem?_of_forall₂ hfit hitem
  exact ⟨bytes, hbytes, by omega⟩

theorem chunkPayload?_eq (hfit : Fitting items data) (hc : c.InRange items) :
    chunkPayload? data c = some (chunkPayload data c) := by
  obtain ⟨bytes, hbytes, hle⟩ := hfit.exists_getElem? hc
  obtain ⟨hadd, hstop⟩ := hc.add64?_eq
  simp only [chunkPayload?, chunkPayload, hbytes, hadd, hstop, slice?_of_le _ hle,
    Option.bind_eq_bind, Option.bind_some, Option.getD_some]

/-- Splitting the payloads of a plan stays within bounds. -/
theorem split?_eq {plan : Plan .write} (h : make .write config items = .ok plan)
    (data : List Bytes) : plan.split? data = some (plan.split data) := by
  by_cases hlength : data.length ≠ plan.items.length
  · rw [split?, split, if_pos hlength, if_pos hlength]
  · by_cases hany : (plan.items.zip data).any fun entry => entry.2.length != entry.1.count.toNat
    · rw [split?, split, if_neg hlength, if_neg hlength, if_pos hany, if_pos hany]
    · have hsplit : plan.split data =
          .ok (plan.groups.map fun g => g.chunks.map (chunkPayload data)) := by
        rw [split, if_neg hlength, if_neg hany]
      have hfit := (split_eq_ok_iff.1 hsplit).1
      have hgroups : (plan.groups.mapM fun g => g.chunks.mapM (chunkPayload? data)) =
          some (plan.groups.map fun g => g.chunks.map (chunkPayload data)) :=
        mapM_eq_some fun g hg => mapM_eq_some fun c hc =>
          chunkPayload?_eq hfit (inRange_of_make h hg hc)
      rw [split?, if_neg hlength, if_neg hany, hgroups, hsplit]
      rfl

/-- Bytes may be replaced by as many others. -/
theorem Fitting.set (hfit : Fitting items data) {i : ℕ} {bytes bytes' : Bytes}
    (hbytes : data[i]? = some bytes) (hlength : bytes'.length = bytes.length) :
    Fitting items (data.set i bytes') := by
  induction hfit generalizing i with
  | nil => simp at hbytes
  | cons hhead hrest ih =>
      cases i with
      | zero =>
          obtain rfl := Option.some.inj hbytes
          exact .cons (hlength.trans hhead) hrest
      | succ i => exact .cons hhead (ih hbytes)

/-- A chunk within its item is stored when its data is long enough, and the buffers keep their
lengths. -/
theorem storeChunk_of_le (hfit : Fitting items buffers) (hc : c.InRange items) {data : Bytes}
    (hle : c.chunkSize.toNat ≤ data.length) :
    ∃ buffers', storeChunk buffers c data = .ok buffers' ∧ Fitting items buffers' := by
  obtain ⟨buffer, hbuffer, hrange⟩ := hfit.exists_getElem? hc
  refine ⟨buffers.set c.tagIndex
    (overwrite buffer c.offset.toNat (data.take c.chunkSize.toNat)), ?_, ?_⟩
  · rw [storeChunk, if_neg (Nat.not_lt.2 hle), hbuffer]
  · refine hfit.set hbuffer (length_overwrite ?_)
    rw [List.length_take_of_le hle]
    exact hrange

theorem storeChunk_of_lt (buffers : List Bytes) {data : Bytes}
    (hlt : data.length < c.chunkSize.toNat) :
    storeChunk buffers c data = .error (.insufficientData c.chunkSize data.length) :=
  if_pos hlt

theorem Fitting.of_storeChunk (hfit : Fitting items buffers) (hc : c.InRange items) {data : Bytes}
    {buffers' : List Bytes} (h : storeChunk buffers c data = .ok buffers') :
    Fitting items buffers' := by
  by_cases hlt : data.length < c.chunkSize.toNat
  · rw [storeChunk_of_lt buffers hlt] at h
    contradiction
  · obtain ⟨_, hstored, hfit'⟩ := storeChunk_of_le hfit hc (Nat.not_lt.1 hlt)
    obtain rfl := Except.ok.inj (hstored.symm.trans h)
    exact hfit'

/-- Storing a chunk stays within bounds. -/
theorem storeChunk?_eq (hfit : Fitting items buffers) (hc : c.InRange items) (data : Bytes) :
    storeChunk? buffers c data = some (storeChunk buffers c data) := by
  by_cases hlt : data.length < c.chunkSize.toNat
  · rw [storeChunk?, storeChunk, if_pos hlt, if_pos hlt]
  · obtain ⟨buffer, hbuffer, hrange⟩ := hfit.exists_getElem? hc
    obtain ⟨hadd, hstop⟩ := hc.add64?_eq
    have hle : c.chunkSize.toNat ≤ data.length := Nat.not_lt.1 hlt
    have hpart : slice? data 0 c.chunkSize.toNat = some (data.take c.chunkSize.toNat) := by
      simpa using slice?_of_le 0 (by rwa [Nat.zero_add])
    have hlength : (data.take c.chunkSize.toNat).length = c.chunkSize.toNat :=
      List.length_take_of_le hle
    simp only [storeChunk?, storeChunk, if_neg hlt, hbuffer, hadd, hstop, hpart,
      overwrite?_of_le _ hrange hlength, Option.bind_eq_bind, Option.bind_some]
    rfl

/-- Storing a response stays within bounds, and the buffers keep their lengths. -/
theorem storeGroup?_eq (hfit : Fitting items buffers) {g : Group}
    (hg : ∀ c ∈ g.chunks, c.InRange items) (response : List Bytes) :
    storeGroup? buffers g response = some (storeGroup buffers g response) ∧
      ∀ buffers', storeGroup buffers g response = .ok buffers' → Fitting items buffers' := by
  by_cases hlength : g.chunks.length ≠ response.length
  · rw [storeGroup?, storeGroup, if_pos hlength, if_pos hlength]
    exact ⟨rfl, fun _ h => by contradiction⟩
  · rw [storeGroup?, storeGroup, if_neg hlength, if_neg hlength]
    refine foldlM_mk_eq_some (P := Fitting items) ?_ hfit
    rintro ⟨c, data⟩ hentry buffers hfit
    have hc := hg c (List.of_mem_zip hentry).1
    exact ⟨storeChunk?_eq hfit hc data, fun _ => hfit.of_storeChunk hc⟩

/-- The buffers that merging begins with are as long as the items. -/
theorem fitting_replicate (items : List Item) :
    Fitting items (items.map fun item => List.replicate item.count.toNat 0) :=
  List.forall₂_map_right_iff.2 (List.forall₂_same.2 fun _ _ => List.length_replicate)

/-- Merging the responses to a plan stays within bounds. -/
theorem merge?_eq {plan : Plan .read} (h : make .read config items = .ok plan)
    (responses : List (List Bytes)) : plan.merge? responses = some (plan.merge responses) := by
  by_cases hlength : responses.length ≠ plan.groups.length
  · rw [merge?, merge, if_pos hlength, if_pos hlength]
  · rw [merge?, merge, if_neg hlength, if_neg hlength]
    refine (foldlM_mk_eq_some (P := Fitting plan.items) ?_ (fitting_replicate plan.items)).1
    rintro ⟨g, response⟩ hentry buffers hfit
    exact storeGroup?_eq hfit (fun c hc => inRange_of_make h (List.of_mem_zip hentry).1 hc) response

end Plan

end S7Request
