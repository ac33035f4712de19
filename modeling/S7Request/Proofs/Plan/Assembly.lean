import S7Request.Proofs.Plan.Payload

/-!
# Parts and data

The parts that the chunks of a plan carry and the data of its items determine each other. Any parts
of the right sizes are what some data is cut into, and the parts of one item's chunks, one after the
other, are the data of that item. Every chunk lies within its item and every byte of an item is in
one of its chunks.
-/
namespace S7Request

/-- The chunk lies within one of the items. -/
def Chunk.InRange (items : List Item) (c : Chunk) : Prop :=
  ∃ item, items[c.tagIndex]? = some item ∧
    c.offset.toNat + c.chunkSize.toNat ≤ item.count.toNat

namespace Plan

variable {d : Direction} {config : PlannerConfig} {items : List Item} {plan : Plan d}
  {data : List Bytes} {cs : List Chunk} {parts : List Bytes}

/-- Every chunk of a plan lies within its item. -/
theorem inRange_of_make (h : make d config items = .ok plan) {g : Group} (hg : g ∈ plan.groups)
    {c : Chunk} (hc : c ∈ g.chunks) : c.InRange plan.items := by
  have hmem : c.piece ∈ (plan.groups.flatMap (·.chunks)).map Chunk.piece :=
    List.mem_map_of_mem (List.mem_flatMap.2 ⟨g, hg, hc⟩)
  obtain ⟨size, hsize, hle⟩ := (cover_of_make h).exists_le hmem
  rw [List.getElem?_map, Option.map_eq_some_iff] at hsize
  obtain ⟨item, hitem, rfl⟩ := hsize
  exact ⟨item, hitem, hle⟩

/-- No chunk of a plan is empty. -/
theorem chunkSize_pos_of_make (h : make d config items = .ok plan) {g : Group}
    (hg : g ∈ plan.groups) {c : Chunk} (hc : c ∈ g.chunks) : 0 < c.chunkSize.toNat := by
  obtain ⟨b, -, hpack, -⟩ := make_eq_ok_iff.1 h
  exact (admits_of_pack hpack hg).length_pos c.piece (List.mem_map_of_mem hc)

/-- The parts are as large as the chunks. -/
def Sized (cs : List Chunk) (parts : List Bytes) : Prop :=
  List.Forall₂ (fun c part => part.length = c.chunkSize.toNat) cs parts

theorem Sized.length_flatten (h : Sized cs parts) :
    parts.flatten.length = Piece.payload (cs.map Chunk.piece) := by
  induction h with
  | nil => rfl
  | cons hpart _ ih =>
      rw [List.flatten_cons, List.length_append, ih, hpart]
      rfl

/-- The parts of one request, one after the other, are cut back into the parts. -/
theorem chunkPayload_of_tile (earlier : Bytes) {tag stop : ℕ} (hparts : Sized cs parts)
    (hdata : data[tag]? = some (earlier ++ parts.flatten))
    (htile : Tile tag earlier.length (cs.map Chunk.piece) stop) :
    List.Forall₂ (fun c part => chunkPayload data c = part) cs parts := by
  induction hparts generalizing earlier with
  | nil => exact .nil
  | @cons c part cs parts hpart _ ih =>
      obtain ⟨htag, hoffset, -, hrest⟩ := htile.of_cons
      rw [List.flatten_cons] at hdata
      refine .cons ?_ (ih (earlier ++ part) ?_ ?_)
      · rw [chunkPayload, htag, hdata, Option.getD_some, hoffset, List.drop_left, ← hpart,
          List.take_left]
      · rw [hdata, List.append_assoc]
      · rw [List.length_append, hpart, ← hoffset]
        exact hrest

/-- Any parts of the right sizes are what some data is cut into, whatever data stands before. -/
theorem exists_data_of_cover (earlier : List Bytes) {sizes : List ℕ} (hparts : Sized cs parts)
    (hcover : Cover earlier.length sizes (cs.map Chunk.piece)) :
    ∃ later, later.map List.length = sizes ∧
      List.Forall₂ (fun c part => chunkPayload (earlier ++ later) c = part) cs parts := by
  induction sizes generalizing earlier cs parts with
  | nil =>
      obtain rfl : cs = [] := List.map_eq_nil_iff.1 hcover
      obtain rfl := List.forall₂_nil_left_iff.1 hparts
      exact ⟨[], rfl, .nil⟩
  | cons size sizes ih =>
      obtain ⟨cs, cs', rfl, htile, hrest⟩ := hcover.of_cons
      obtain ⟨parts, parts', rfl, hown, hothers⟩ := forall₂_append_left hparts
      -- The data of the first request is its parts, one after the other.
      have hsize : parts.flatten.length = size := by
        rw [Sized.length_flatten hown, htile.stop_eq, Nat.zero_add]
      obtain ⟨later, hlengths, hlater⟩ :=
        ih (earlier ++ [parts.flatten]) hothers (by simpa using hrest)
      rw [List.append_assoc] at hlater
      refine ⟨parts.flatten :: later, by rw [List.map_cons, hsize, hlengths], ?_⟩
      exact List.rel_append (chunkPayload_of_tile [] hown (by simp) htile) hlater

/-- Entries that are long enough for the chunks begin with parts as large as the chunks. -/
theorem exists_sized {entries : List Bytes}
    (h : List.Forall₂ (fun c bytes => c.chunkSize.toNat ≤ bytes.length) cs entries) :
    ∃ parts, Sized cs parts ∧ ∀ data,
      List.Forall₂ (fun c part => chunkPayload data c = part) cs parts →
        List.Forall₂ (fun c bytes => chunkPayload data c = bytes.take c.chunkSize.toNat) cs
          entries := by
  induction h with
  | nil => exact ⟨[], .nil, fun _ _ => .nil⟩
  | @cons c bytes cs entries hle _ ih =>
      obtain ⟨parts, hparts, hcut⟩ := ih
      refine ⟨bytes.take c.chunkSize.toNat :: parts, .cons (List.length_take_of_le hle) hparts,
        fun data h => ?_⟩
      obtain ⟨hhead, hrest⟩ := List.forall₂_cons.1 h
      exact .cons hhead (hcut data hrest)

/-- Any parts of the right sizes are what some data of the items is cut into. -/
theorem exists_fitting (h : make d config items = .ok plan)
    (hparts : Sized (plan.groups.flatMap (·.chunks)) parts) :
    ∃ data, Fitting plan.items data ∧
      List.Forall₂ (fun c part => chunkPayload data c = part) (plan.groups.flatMap (·.chunks))
        parts := by
  obtain ⟨data, hlengths, hdata⟩ := exists_data_of_cover [] hparts (cover_of_make h)
  exact ⟨data, (forall₂_of_map_eq_map hlengths).flip, hdata⟩

/-- Any entries that are long enough for the chunks begin with what some data of the items is cut
into. -/
theorem exists_fitting_of_le (h : make d config items = .ok plan) {entries : List Bytes}
    (hentries : List.Forall₂ (fun c bytes => c.chunkSize.toNat ≤ bytes.length)
      (plan.groups.flatMap (·.chunks)) entries) :
    ∃ data, Fitting plan.items data ∧
      List.Forall₂ (fun c bytes => chunkPayload data c = bytes.take c.chunkSize.toNat)
        (plan.groups.flatMap (·.chunks)) entries := by
  obtain ⟨parts, hparts, hcut⟩ := exists_sized hentries
  obtain ⟨data, hfit, hdata⟩ := exists_fitting h hparts
  exact ⟨data, hfit, hcut data hdata⟩

/-- The chunks of one item make it up. -/
theorem tile_of_make (h : make d config items = .ok plan) {i : ℕ} {item : Item}
    (hitem : plan.items[i]? = some item) :
    Tile i 0 (((plan.groups.flatMap (·.chunks)).filter (·.tagIndex = i)).map Chunk.piece)
      item.count.toNat := by
  obtain ⟨b, -, hpack, hitems⟩ := make_eq_ok_iff.1 h
  have hsize : (sizes items)[i]? = some item.count.toUInt64 := by
    rw [sizes, List.getElem?_map, ← hitems, hitem, Option.map_some]
  have htile := tile_of_pack hpack hsize
  rw [UInt32.toNat_toUInt64] at htile
  exact htile

/-- Every byte of an item is in one of the item's chunks. -/
theorem exists_chunk (h : make d config items = .ok plan) {i : ℕ} {item : Item}
    (hitem : plan.items[i]? = some item) {j : ℕ} (hj : j < item.count.toNat) :
    ∃ g ∈ plan.groups, ∃ c ∈ g.chunks, c.tagIndex = i ∧ c.offset.toNat ≤ j ∧
      j < c.offset.toNat + c.chunkSize.toNat := by
  obtain ⟨p, hp, hle, hlt⟩ := (tile_of_make h hitem).exists_mem (Nat.zero_le j) hj
  obtain ⟨c, hc, rfl⟩ := List.mem_map.1 hp
  obtain ⟨hc, htag⟩ := List.mem_filter.1 hc
  obtain ⟨g, hg, hcg⟩ := List.mem_flatMap.1 hc
  exact ⟨g, hg, c, hcg, by simpa using htag, hle, hlt⟩

/-- The payloads of the chunks of one request are its bytes from where they begin. -/
theorem flatMap_chunkPayload_of_tile {tag start : ℕ} {bytes : Bytes}
    (hdata : data[tag]? = some bytes)
    (htile : Tile tag start (cs.map Chunk.piece) bytes.length) :
    cs.flatMap (chunkPayload data) = bytes.drop start := by
  induction cs generalizing start with
  | nil =>
      obtain rfl : start = bytes.length := htile
      simp
  | cons c cs ih =>
      obtain ⟨htag, rfl, -, hrest⟩ := htile.of_cons
      have hown : data[c.tagIndex]? = some bytes := htag ▸ hdata
      rw [List.flatMap_cons, ih hrest, chunkPayload_append_drop hown]

/-- The payloads of the chunks of whole requests are their bytes. -/
theorem flatMap_chunkPayload_of_cover (earlier : List Bytes) {later : List Bytes}
    (hdata : data = earlier ++ later)
    (hcover : Cover earlier.length (later.map List.length) (cs.map Chunk.piece)) :
    cs.flatMap (chunkPayload data) = later.flatten := by
  induction later generalizing earlier cs with
  | nil =>
      obtain rfl : cs = [] := List.map_eq_nil_iff.1 hcover
      rfl
  | cons bytes later ih =>
      obtain ⟨cs, cs', rfl, htile, hrest⟩ := hcover.of_cons
      have hat : data[earlier.length]? = some bytes := by simp [hdata]
      have hothers :=
        ih (earlier ++ [bytes]) (by rw [hdata, List.append_cons]) (by simpa using hrest)
      rw [List.flatMap_append, flatMap_chunkPayload_of_tile hat htile, List.drop_zero, hothers,
        List.flatten_cons]

end Plan

end S7Request
