import S7Request.Proofs.Packing.Capacity

/-!
# Packing is a partition

An accepted budget packs any requests. The groups hold no empty chunk and stay within the target,
their chunks in order make up the requests, and each chunk is marked with its request's size and the
budget.
-/
namespace S7Request

open Piece

namespace Budget

variable {d : Direction} {b : Budget}

@[simp] theorem limits_target (h : b.Accepted d) : (b.limits d h).target = b.target := by
  cases d <;> rfl

@[simp] theorem limits_overhead (h : b.Accepted d) : (b.limits d h).overhead = b.overhead := by
  cases d <;> rfl

theorem limits_margin (h : b.Accepted d) :
    (b.limits d h).margin = if d = .read then b.margin else 0 := by cases d <;> rfl

theorem limits_reserve (h : b.Accepted d) :
    (b.limits d h).reserve = if d = .read then b.margin else b.overhead := by cases d <;> rfl

end Budget

variable {d : Direction} {b : Budget} {sizes : List UInt64} {packing : Packing}

theorem pack_of_accepted (h : b.Accepted d) (sizes : List UInt64) :
    pack d sizes b = .ok ⟨d, b.limits d h, sizes.length,
      Packer.empty.addAll (b.limits d h) 0 sizes⟩ := by
  cases d with
  | read => exact dif_neg (not_or.2 ⟨UInt64.not_le.2 h.1, UInt64.not_le.2 (h.2 rfl)⟩)
  | write => exact dif_neg (UInt64.not_le.2 h.1)

/-- The error of a budget under which nothing is packed. A write shows no margin. -/
theorem pack_of_not_accepted (h : ¬b.Accepted d) (sizes : List UInt64) :
    pack d sizes b =
      .error (.budgetTooSmall b.target b.overhead (if d = .read then b.margin else 0)) := by
  cases d with
  | read =>
      have hsmall : b.target ≤ b.overhead ∨ b.target ≤ b.margin := by
        by_contra hlarge
        obtain ⟨hoverhead, hmargin⟩ := not_or.1 hlarge
        exact h ⟨UInt64.not_le.1 hoverhead, fun _ => UInt64.not_le.1 hmargin⟩
      exact dif_pos hsmall
  | write =>
      have hsmall : b.target ≤ b.overhead := by simpa [Budget.Accepted, UInt64.not_lt] using h
      exact dif_pos hsmall

/-- Sizes are packed under a budget that is accepted, and under no other. -/
theorem pack_eq_ok_iff : pack d sizes b = .ok packing ↔
    ∃ h : b.Accepted d, packing = ⟨d, b.limits d h, sizes.length,
      Packer.empty.addAll (b.limits d h) 0 sizes⟩ := by
  by_cases h : b.Accepted d
  · rw [pack_of_accepted h, Except.ok.injEq]
    exact ⟨fun e => ⟨h, e.symm⟩, fun ⟨_, e⟩ => e.symm⟩
  · simp [pack_of_not_accepted h, h]

namespace Packing

/-- The chunks of all groups, in order. -/
theorem flatMap_chunks (p : Packing) : p.groups.flatMap (·.chunks) = p.packer.placed :=
  p.packer.flatMap_groups

theorem flatMap_pieces (p : Packing) :
    p.groups.flatMap Group.pieces = p.packer.placed.map Chunk.piece := by
  rw [← flatMap_chunks, List.map_flatMap]
  rfl

theorem mem_placed {p : Packing} {g : Group} (hg : g ∈ p.groups) {c : Chunk} (hc : c ∈ g.chunks) :
    c ∈ p.packer.placed := by
  rw [← flatMap_chunks]
  exact List.mem_flatMap.2 ⟨g, hg, hc⟩

end Packing

theorem admits_of_pack (h : pack d sizes b = .ok packing) {g : Group} (hg : g ∈ packing.groups) :
    Admitted b.target.toNat b.overhead.toNat
      (if d = .read then b.margin else b.overhead).toNat g.pieces := by
  obtain ⟨hb, rfl⟩ := pack_eq_ok_iff.1 h
  have := (Packer.sound_addAll (b.limits d hb) sizes).admits g hg
  rwa [Limits.Admits, Budget.limits_target, Budget.limits_overhead, Budget.limits_reserve] at this

theorem cover_of_pack (h : pack d sizes b = .ok packing) :
    Cover 0 (sizes.map (·.toNat)) (packing.groups.flatMap Group.pieces) := by
  obtain ⟨hb, rfl⟩ := pack_eq_ok_iff.1 h
  obtain ⟨new, hplaced, hcover, -⟩ := Packer.placed_addAll (b.limits d hb) 0 sizes .empty
  rwa [Packing.flatMap_pieces, hplaced, Packer.placed_empty, List.nil_append]

/-- The chunks of one request, in the order of the groups and of the chunks in each. -/
def chunksOfRequest (groups : List Group) (tag : ℕ) : List Chunk :=
  (groups.flatMap (·.chunks)).filter (·.tagIndex = tag)

/-- The chunks of one request make it up. -/
theorem tile_of_pack (h : pack d sizes b = .ok packing) {tag : ℕ} {size : UInt64}
    (hsize : sizes[tag]? = some size) :
    Tile tag 0 ((chunksOfRequest packing.groups tag).map Chunk.piece) size.toNat := by
  have hsize' : (sizes.map (·.toNat))[tag]? = some size.toNat := by
    rw [List.getElem?_map, hsize, Option.map_some]
  have htile := (cover_of_pack h).tile_filter hsize'
  rw [Nat.zero_add, Packing.flatMap_pieces, ← Packing.flatMap_chunks, List.filter_map] at htile
  exact htile

/-- Every chunk is marked with the size of its request, the overhead, and the margin of a read. -/
theorem marks_of_pack (h : pack d sizes b = .ok packing) {g : Group} (hg : g ∈ packing.groups)
    {c : Chunk} (hc : c ∈ g.chunks) :
    sizes[c.tagIndex]? = some c.requestSize ∧ c.overheadSize = b.overhead ∧
      c.margin = if d = .read then b.margin else 0 := by
  have hmem := Packing.mem_placed hg hc
  obtain ⟨hb, rfl⟩ := pack_eq_ok_iff.1 h
  obtain ⟨new, hplaced, -, hmarks⟩ := Packer.placed_addAll (b.limits d hb) 0 sizes .empty
  rw [hplaced, Packer.placed_empty, List.nil_append] at hmem
  obtain ⟨-, hsize, hoverhead, hmargin⟩ := hmarks c hmem
  exact ⟨hsize, by rw [hoverhead, Budget.limits_overhead], by rw [hmargin, Budget.limits_margin]⟩

theorem sum_totals_eq_load {g : Group} {overhead : UInt64}
    (h : ∀ c ∈ g.chunks, c.overheadSize = overhead) :
    (g.chunks.map fun c => c.chunkSize.toNat + c.overheadSize.toNat).sum =
      load overhead.toNat g.pieces := by
  rw [load, Group.pieces, List.map_map]
  congr 1
  exact List.map_congr_left fun c hc => by simp [Chunk.piece, h c hc]

/-- Groups that partition requests under a budget: no group and no chunk is empty, every group stays
within the target, the chunks of all groups in order make up the requests, and each is marked with
the size of its request, the overhead, and the margin of a read. -/
structure Partitioned (d : Direction) (b : Budget) (sizes : List UInt64) (groups : List Group) :
    Prop where
  chunks_ne_nil : ∀ g ∈ groups, g.chunks ≠ []
  chunkSize_pos : ∀ g ∈ groups, ∀ c ∈ g.chunks, 0 < c.chunkSize
  total_le : ∀ g ∈ groups,
    (g.chunks.map fun c => c.chunkSize.toNat + c.overheadSize.toNat).sum ≤ b.target.toNat
  cover : Cover 0 (sizes.map (·.toNat)) (groups.flatMap Group.pieces)
  requestSize_eq : ∀ g ∈ groups, ∀ c ∈ g.chunks, sizes[c.tagIndex]? = some c.requestSize
  overheadSize_eq : ∀ g ∈ groups, ∀ c ∈ g.chunks, c.overheadSize = b.overhead
  margin_eq : ∀ g ∈ groups, ∀ c ∈ g.chunks, c.margin = if d = .read then b.margin else 0

/-- Packing under an accepted budget succeeds and partitions the requests. -/
theorem pack_partitions (d : Direction) (sizes : List UInt64) (b : Budget) (h : b.Accepted d) :
    ∃ packing, pack d sizes b = .ok packing ∧ Partitioned d b sizes packing.groups := by
  have hpack := pack_of_accepted h sizes
  refine ⟨_, hpack, ?_⟩
  constructor
  case chunks_ne_nil =>
    intro g hg
    simpa [Group.pieces] using (admits_of_pack hpack hg).ne_nil
  case chunkSize_pos =>
    intro g hg c hc
    have := (admits_of_pack hpack hg).length_pos c.piece (List.mem_map_of_mem hc)
    exact UInt64.lt_iff_toNat_lt.2 this
  case total_le =>
    intro g hg
    rw [sum_totals_eq_load fun c hc => (marks_of_pack hpack hg hc).2.1]
    exact (admits_of_pack hpack hg).load_le
  case cover => exact cover_of_pack hpack
  case requestSize_eq => exact fun g hg c hc => (marks_of_pack hpack hg hc).1
  case overheadSize_eq => exact fun g hg c hc => (marks_of_pack hpack hg hc).2.1
  case margin_eq => exact fun g hg c hc => (marks_of_pack hpack hg hc).2.2

/-- A margin below the overhead, an empty request, and the largest request. -/
theorem pack_partitions_largest :
    (⟨0x8000000000000000, 10, 2⟩ : Budget).Accepted .read ∧
      ∃ packing, pack .read [85, 0, 0xffffffffffffffff] ⟨0x8000000000000000, 10, 2⟩ = .ok packing ∧
        Partitioned .read ⟨0x8000000000000000, 10, 2⟩ [85, 0, 0xffffffffffffffff] packing.groups :=
  ⟨by decide, pack_partitions .read _ _ (by decide)⟩

example : (pack .write [1, 50, 65, 200, 322, 99, 500, 44] ⟨226, 5, 0⟩).map
      (fun p => p.groups.map fun g => g.chunks.map (·.chunkSize)) =
    .ok [[1, 50, 65, 90], [110, 106], [216], [99, 117], [221], [162, 44]] := by cbv

end S7Request
