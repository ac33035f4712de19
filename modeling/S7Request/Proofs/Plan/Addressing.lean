import S7Request.Proofs.Plan.Assembly
import S7Request.Proofs.Plan.Requests

/-!
# Addressing the units of items

A plan has requests when every chunk begins at a unit whose number fits in 32 bits. The chunks of an
item begin later and later, so its last chunk decides. A chunk lies within its item and is not
empty, so nothing else can be wrong with its slice. The requests of an item, one after the other,
name its units, each once and in order.
-/
namespace S7Request

def Item.units (item : Item) : List Location :=
  (List.range item.count.toNat).map item.location.shift

/-- The chunk begins at a unit whose number fits in 32 bits. -/
def Chunk.Addressable (items : List Item) (c : Chunk) : Prop :=
  ∃ item, items[c.tagIndex]? = some item ∧ item.start + c.offset.toNat < UInt32.size

namespace Item

variable {item sub : Item} {offset length : UInt64}

@[simp] theorem length_units (item : Item) : item.units.length = item.count.toNat := by
  simp [units]

/-- The units of a slice are those that it is cut from. -/
theorem units_of_slice (h : item.slice offset length = .ok sub) :
    sub.units = (item.units.drop offset.toNat).take length.toNat := by
  have hcount := toNat_count_of_slice h
  have hle := add_le_count_of_slice h
  apply List.ext_getElem
  · simp only [length_units, List.length_take, List.length_drop]
    omega
  · intro k hk hk'
    simp [units, location_of_slice h]

end Item

namespace Plan

variable {d : Direction} {config : PlannerConfig} {items : List Item} {plan : Plan d}
  {requests : List (List Item)} {c : Chunk}

/-- The chunks of one item, in the order of the groups and of the chunks in each. -/
def chunksOf (plan : Plan d) (i : ℕ) : List Chunk :=
  (plan.groups.flatMap (·.chunks)).filter (·.tagIndex = i)

/-- What the chunks of one item ask for, in the same order. -/
def requestsOf (plan : Plan d) (requests : List (List Item)) (i : ℕ) : List Item :=
  (((plan.groups.flatMap (·.chunks)).zip requests.flatten).filter (·.1.tagIndex = i)).map (·.2)

theorem mem_chunksOf {i : ℕ} :
    c ∈ plan.chunksOf i ↔ (∃ g ∈ plan.groups, c ∈ g.chunks) ∧ c.tagIndex = i := by
  simp [chunksOf]

/-- The chunks of one item make it up. -/
theorem tile_chunksOf (h : make d config items = .ok plan) {i : ℕ} {item : Item}
    (hitem : plan.items[i]? = some item) :
    Tile i 0 ((plan.chunksOf i).map Chunk.piece) item.count.toNat :=
  tile_of_make h hitem

/-- The chunks of an item that has units end with one that ends where the item does. -/
theorem exists_getLast?_chunksOf (h : make d config items = .ok plan) {i : ℕ} {item : Item}
    (hitem : plan.items[i]? = some item) (hcount : item.count ≠ 0) :
    ∃ c, (plan.chunksOf i).getLast? = some c ∧
      c.offset.toNat + c.chunkSize.toNat = item.count.toNat := by
  have htile := tile_chunksOf h hitem
  rcases List.eq_nil_or_concat (plan.chunksOf i) with hnil | ⟨init, c, hsplit⟩
  · rw [hnil] at htile
    have hzero : 0 = item.count.toNat := htile
    exact absurd (UInt32.toNat_inj.1 hzero.symm) hcount
  · rw [List.concat_eq_append] at hsplit
    rw [hsplit, List.map_append] at htile
    refine ⟨c, ?_, htile.of_concat.2⟩
    rw [hsplit, List.getLast?_concat]

/-- No chunk of an item begins after the last one. -/
theorem offset_le_of_getLast? (h : make d config items = .ok plan) {i : ℕ} {item : Item}
    (hitem : plan.items[i]? = some item) (hc : c ∈ plan.chunksOf i) {last : Chunk}
    (hlast : (plan.chunksOf i).getLast? = some last) : c.offset.toNat ≤ last.offset.toNat := by
  have htile := tile_chunksOf h hitem
  obtain ⟨init, hsplit⟩ := List.getLast?_eq_some_iff.1 hlast
  rw [hsplit, List.map_append] at htile
  rw [hsplit] at hc
  rcases List.mem_append.1 hc with hc | hc
  · have hle := htile.of_concat.1.add_length_le (List.mem_map_of_mem hc)
    simp only [Chunk.piece] at hle
    omega
  · obtain rfl := List.mem_singleton.1 hc
    exact Nat.le_refl _

/-- All chunks begin at units with numbers of 32 bits when the last chunk of every item does. -/
theorem forall_addressable_iff (h : make d config items = .ok plan) :
    (∀ g ∈ plan.groups, ∀ c ∈ g.chunks, c.Addressable plan.items) ↔
      ∀ i item c, plan.items[i]? = some item → (plan.chunksOf i).getLast? = some c →
        item.start + c.offset.toNat < UInt32.size := by
  constructor
  · intro hall i item c hitem hlast
    obtain ⟨⟨g, hg, hc⟩, rfl⟩ := mem_chunksOf.1 (List.mem_of_getLast? hlast)
    obtain ⟨item', hitem', hstart⟩ := hall g hg c hc
    obtain rfl : item = item' := Option.some.inj (hitem.symm.trans hitem')
    exact hstart
  · intro hlast g hg c hc
    obtain ⟨item, hitem, -⟩ := inRange_of_make h hg hc
    have hmem : c ∈ plan.chunksOf c.tagIndex := mem_chunksOf.2 ⟨⟨g, hg, hc⟩, rfl⟩
    obtain ⟨last, hgetLast⟩ := Option.isSome_iff_exists.1
      (List.getLast?_isSome.2 (List.ne_nil_of_mem hmem))
    have hle := offset_le_of_getLast? h hitem hmem hgetLast
    have hstart := hlast c.tagIndex item last hitem hgetLast
    exact ⟨item, hitem, by omega⟩

/-- A chunk of a plan asks for something when it is addressable. -/
theorem exists_chunkItem_iff (h : make d config items = .ok plan) {g : Group}
    (hg : g ∈ plan.groups) (hc : c ∈ g.chunks) :
    (∃ sub, chunkItem plan.items c = .ok sub) ↔ c.Addressable plan.items := by
  obtain ⟨item, hitem, hle⟩ := inRange_of_make h hg hc
  have hpos := chunkSize_pos_of_make h hg hc
  simp only [chunkItem_eq_ok_iff, Sends, Chunk.Addressable, hitem, Option.some.injEq,
    exists_eq_left']
  constructor
  · rintro ⟨sub, hslice⟩
    obtain ⟨-, -, position, hposition, -⟩ := Item.slice_eq_ok_iff.1 hslice
    rw [← hposition]
    exact position.toNat_lt
  · intro hstart
    exact Item.exists_slice hpos hle hstart

/-- The only error of a chunk of a plan is that it is not addressable. -/
theorem eq_of_chunkItem_eq_error (h : make d config items = .ok plan) {g : Group}
    (hg : g ∈ plan.groups) (hc : c ∈ g.chunks) {e : Error}
    (he : chunkItem plan.items c = .error e) : e = .planMismatch .addressOverflow := by
  obtain ⟨item, hitem, hle⟩ := inRange_of_make h hg hc
  have hpos := chunkSize_pos_of_make h hg hc
  simp only [chunkItem, hitem] at he
  by_cases hstart : item.start + c.offset.toNat < UInt32.size
  · obtain ⟨sub, hslice⟩ := Item.exists_slice hpos hle hstart
    rw [hslice] at he
    contradiction
  · rw [Item.slice_of_size_le hpos hle (Nat.le_of_not_lt hstart)] at he
    exact (Except.error.inj he).symm

/-- Whatever error there is, is that of a chunk. -/
theorem exists_of_requests_eq_error {e : Error} (he : plan.requests = .error e) :
    ∃ g ∈ plan.groups, ∃ c ∈ g.chunks, chunkItem plan.items c = .error e := by
  obtain ⟨g, hg, hgroup⟩ := exists_of_mapM_eq_error he
  obtain ⟨c, hc, hchunk⟩ := exists_of_mapM_eq_error hgroup
  exact ⟨g, hg, c, hc, hchunk⟩

theorem eq_of_requests_eq_error (h : make d config items = .ok plan) {e : Error}
    (he : plan.requests = .error e) : e = .planMismatch .addressOverflow := by
  obtain ⟨g, hg, c, hc, hchunk⟩ := exists_of_requests_eq_error he
  exact eq_of_chunkItem_eq_error h hg hc hchunk

/-- A plan has requests when all its chunks are addressable. -/
theorem exists_requests_iff (h : make d config items = .ok plan) :
    (∃ requests, plan.requests = .ok requests) ↔
      ∀ g ∈ plan.groups, ∀ c ∈ g.chunks, c.Addressable plan.items := by
  constructor
  · rintro ⟨requests, hrequests⟩ g hg c hc
    obtain ⟨i, hi⟩ := List.mem_iff_getElem?.1 (List.mem_flatMap.2 ⟨g, hg, hc⟩)
    obtain ⟨sub, -, hsends⟩ := exists_getElem?_of_forall₂ (sends_flatten hrequests) hi
    exact (exists_chunkItem_iff h hg hc).1 ⟨sub, chunkItem_eq_ok_iff.2 hsends⟩
  · intro hall
    cases hrequests : plan.requests with
    | ok requests => exact ⟨requests, rfl⟩
    | error e =>
        obtain ⟨g, hg, c, hc, hchunk⟩ := exists_of_requests_eq_error hrequests
        obtain ⟨sub, hsub⟩ := (exists_chunkItem_iff h hg hc).2 (hall g hg c hc)
        rw [hsub] at hchunk
        contradiction

/-- The slices of the chunks of one item name its units from where they begin. -/
theorem flatMap_units_of_tile {item : Item} {tag start : ℕ} {cs : List Chunk} {subs : List Item}
    (hitem : items[tag]? = some item) (hsends : List.Forall₂ (Sends items) cs subs)
    (htile : Tile tag start (cs.map Chunk.piece) item.count.toNat) :
    subs.flatMap Item.units = item.units.drop start := by
  induction hsends generalizing start with
  | nil =>
      obtain rfl : start = item.count.toNat := htile
      simp
  | @cons c sub cs subs hsend _ ih =>
      obtain ⟨rfl, rfl, -, hrest⟩ := htile.of_cons
      obtain ⟨item', hitem', hslice⟩ := hsend
      obtain rfl : item = item' := Option.some.inj (hitem.symm.trans hitem')
      rw [List.flatMap_cons, ih hrest, Item.units_of_slice hslice, ← List.drop_drop,
        List.take_append_drop]

theorem forall₂_requestsOf (h : plan.requests = .ok requests) (i : ℕ) :
    List.Forall₂ (Sends plan.items) (plan.chunksOf i) (plan.requestsOf requests i) :=
  forall₂_filter_zip (sends_flatten h) _

/-- There is a request for every chunk, as large as the chunk, and the requests of an item name its
units, each once and in order. An item that has units, as every item has that can be made, is asked
for. -/
structure AsksWhole (plan : Plan d) (requests : List (List Item)) : Prop where
  count_eq : List.Forall₂ (fun g r =>
    List.Forall₂ (fun c sub => sub.count.toNat = c.chunkSize.toNat) g.chunks r) plan.groups requests
  units_eq : ∀ i item, plan.items[i]? = some item →
    (plan.requestsOf requests i).flatMap Item.units = item.units
  ne_nil : ∀ i item, plan.items[i]? = some item → item.count ≠ 0 →
    plan.requestsOf requests i ≠ []

theorem asksWhole_of_requests (h : make d config items = .ok plan)
    (hrequests : plan.requests = .ok requests) : plan.AsksWhole requests where
  count_eq := by
    refine (requests_eq_ok_iff.1 hrequests).imp fun g r hgroup => hgroup.imp fun c sub hsend => ?_
    obtain ⟨item, -, hslice⟩ := hsend
    exact Item.toNat_count_of_slice hslice
  units_eq := by
    intro i item hitem
    exact flatMap_units_of_tile hitem (forall₂_requestsOf hrequests i) (tile_chunksOf h hitem)
  ne_nil := by
    intro i item hitem hcount hnil
    obtain ⟨c, hlast, -⟩ := exists_getLast?_chunksOf h hitem hcount
    have hsends := forall₂_requestsOf hrequests i
    rw [hnil, List.forall₂_nil_right_iff] at hsends
    rw [hsends] at hlast
    contradiction

/-- A plan has requests exactly when the last chunk of every item begins at a unit whose number fits
in 32 bits. There is no other error, and the requests name the units of all items. -/
theorem requests_exact (h : make d config items = .ok plan) :
    ((∃ requests, plan.requests = .ok requests) ↔
      ∀ i item c, items[i]? = some item → (plan.chunksOf i).getLast? = some c →
        item.start + c.offset.toNat < UInt32.size) ∧
      (∀ e, plan.requests = .error e → e = .planMismatch .addressOverflow) ∧
      (∀ requests, plan.requests = .ok requests → plan.AsksWhole requests) ∧
      ∀ i item, items[i]? = some item → item.count ≠ 0 →
        ∃ c, (plan.chunksOf i).getLast? = some c ∧
          c.offset.toNat + c.chunkSize.toNat = item.count.toNat := by
  obtain rfl := items_of_make h
  refine ⟨(exists_requests_iff h).trans (forall_addressable_iff h), ?_, ?_, ?_⟩
  · intro e he
    exact eq_of_requests_eq_error h he
  · intro requests hrequests
    exact asksWhole_of_requests h hrequests
  · intro i item hitem hcount
    exact exists_getLast?_chunksOf h hitem hcount

/-- Six bits that are cut after four of them. The last part may begin at the last bit that has a
number, and one bit later it may not. -/
theorem requests_exact_last_bit :
    (∃ plan requests,
      make .read ⟨0, some ⟨7, 3, 2⟩, none⟩ [⟨.flags, 0, 0x1FFFFFFF, 3, .bit, 6⟩] = .ok plan ∧
      plan.requests = .ok requests ∧
      requests = [[⟨.flags, 0, 0x1FFFFFFF, 3, .bit, 4⟩], [⟨.flags, 0, 0x1FFFFFFF, 7, .bit, 2⟩]] ∧
      plan.AsksWhole requests) ∧
    ∃ plan,
      make .read ⟨0, some ⟨7, 3, 2⟩, none⟩ [⟨.flags, 0, 0x1FFFFFFF, 4, .bit, 6⟩] = .ok plan ∧
      plan.requests = .error (.planMismatch .addressOverflow) := by
  constructor
  · have hsent : (make .read ⟨0, some ⟨7, 3, 2⟩, none⟩
        [⟨.flags, 0, 0x1FFFFFFF, 3, .bit, 6⟩] >>= requests) =
        .ok [[⟨.flags, 0, 0x1FFFFFFF, 3, .bit, 4⟩], [⟨.flags, 0, 0x1FFFFFFF, 7, .bit, 2⟩]] := by
      decide +kernel
    obtain ⟨plan, hplan, hrequests⟩ := bind_eq_ok_iff.1 hsent
    obtain ⟨-, -, hwhole, -⟩ := requests_exact hplan
    exact ⟨plan, _, hplan, hrequests, rfl, hwhole _ hrequests⟩
  · have hlast : (make .read ⟨0, some ⟨7, 3, 2⟩, none⟩
        [⟨.flags, 0, 0x1FFFFFFF, 4, .bit, 6⟩]).map (fun plan => (plan.chunksOf 0).getLast?) =
        .ok (some ⟨0, 6, 4, 2, 3, 2⟩) := by
      decide +kernel
    obtain ⟨plan, hplan, hchunk⟩ := map_eq_ok_iff.1 hlast
    obtain ⟨hok, herror, -, -⟩ := requests_exact hplan
    refine ⟨plan, hplan, ?_⟩
    cases hrequests : plan.requests with
    | ok requests =>
        have hstart := hok.1 ⟨requests, hrequests⟩ 0 _ _ rfl hchunk
        exact absurd hstart (by decide)
    | error e => rw [herror e hrequests]

end Plan

end S7Request
