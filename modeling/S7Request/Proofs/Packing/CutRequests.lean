import S7Request.Proofs.Packing.CutWhenFull
import S7Request.Proofs.Packing.Overflow

/-!
# Where requests are cut

The chunks of a packing come in the order of their requests, and those of one request in the order
of their offsets. Since a group is full when its last chunk leaves some of its request, and no other
chunk of it does, a request that is cut has one chunk in each of the groups that it goes through: it
ends the first one, fills those between alone, and begins the last one.
-/
namespace S7Request

open Piece

variable {d : Direction} {b : Budget} {sizes : List UInt64} {packing : Packing} {g : Group}
  {c : Chunk}

/-- The chunks of all groups come in the order of their requests, and no chunk of a request comes
after the one that ends it. -/
theorem pairwise_of_pack (h : pack d sizes b = .ok packing) :
    (packing.groups.flatMap (·.chunks)).Pairwise fun c c' =>
      c.tagIndex < c'.tagIndex ∨ c.tagIndex = c'.tagIndex ∧ ¬c.Ends := by
  have hcover := cover_of_pack h
  rw [Packing.flatMap_pieces, ← Packing.flatMap_chunks] at hcover
  refine (List.pairwise_map.1 hcover.pairwise_before).imp_of_mem ?_
  rintro c c' hc hc' (hlt | ⟨htag, hle⟩)
  · exact .inl hlt
  · refine .inr ⟨htag, fun hends => ?_⟩
    obtain ⟨g, hg, hcg⟩ := List.mem_flatMap.1 hc
    have hsize := (marks_of_pack h hg hcg).1
    obtain ⟨size, hsize', hstop⟩ := hcover.exists_le (List.mem_map_of_mem hc')
    have hpos := hcover.length_pos (List.mem_map_of_mem hc')
    rw [← htag, List.getElem?_map, Chunk.piece, hsize, Option.map_some, Option.some.injEq] at hsize'
    simp only [Chunk.piece, Chunk.Ends] at *
    omega

/-- The requests of a group's chunks come in order, each with one chunk. -/
theorem pairwise_tagIndex_lt (h : pack d sizes b = .ok packing) (hg : g ∈ packing.groups) :
    g.chunks.Pairwise fun c c' => c.tagIndex < c'.tagIndex := by
  have horder := (List.pairwise_flatMap.1 (pairwise_of_pack h)).1 g hg
  have hends := (cutWhenFull_of_pack h hg).ends
  rcases List.eq_nil_or_concat g.chunks with hnil | ⟨init, last, hsplit⟩
  · rw [hnil]
    exact .nil
  · -- Of two chunks the first is not the last one, so it ends its request.
    rw [List.concat_eq_append] at hsplit
    rw [hsplit, List.dropLast_concat] at hends
    rw [hsplit] at horder ⊢
    obtain ⟨hinit, -, hlast⟩ := List.pairwise_append.1 horder
    refine List.pairwise_append.2 ⟨hinit.imp_of_mem ?_, List.pairwise_singleton _ _, ?_⟩
    · intro c c' hc _ hcc'
      exact hcc'.resolve_right fun hsame => hsame.2 (hends c hc)
    · intro c hc c' hc'
      exact (hlast c hc c' hc').resolve_right fun hsame => hsame.2 (hends c hc)

/-- The requests of an earlier group's chunks do not come after those of a later one's. -/
theorem pairwise_tagIndex_le (h : pack d sizes b = .ok packing) :
    packing.groups.Pairwise fun g g' =>
      ∀ c ∈ g.chunks, ∀ c' ∈ g'.chunks, c.tagIndex ≤ c'.tagIndex := by
  refine (List.pairwise_flatMap.1 (pairwise_of_pack h)).2.imp ?_
  intro g g' hgg' c hc c' hc'
  rcases hgg' c hc c' hc' with hlt | ⟨heq, -⟩
  · exact Nat.le_of_lt hlt
  · exact Nat.le_of_eq heq

/-- A chunk that ends its request is the last one of it. -/
theorem getLast?_chunksOfRequest (h : pack d sizes b = .ok packing)
    (hc : c ∈ packing.groups.flatMap (·.chunks)) (hends : c.Ends) :
    (chunksOfRequest packing.groups c.tagIndex).getLast? = some c := by
  have horder := pairwise_of_pack h
  obtain ⟨before, after, hsplit⟩ := List.append_of_mem hc
  have hlater : after.filter (·.tagIndex = c.tagIndex) = [] := by
    rw [List.filter_eq_nil_iff]
    intro c' hc'
    rw [hsplit] at horder
    have hcc' := List.rel_of_pairwise_cons (List.pairwise_append.1 horder).2.1 hc'
    have hlt := hcc'.resolve_right fun hsame => hsame.2 hends
    simp only [decide_eq_true_eq]
    omega
  rw [chunksOfRequest, hsplit, List.filter_append, List.filter_cons_of_pos (by simp), hlater,
    List.getLast?_concat]

/-- A chunk that is not the first of its group is the first one of its request. -/
theorem head?_chunksOfRequest (h : pack d sizes b = .ok packing) (hg : g ∈ packing.groups)
    {first : Chunk} {between after : List Chunk}
    (hchunks : g.chunks = first :: between ++ c :: after) :
    (chunksOfRequest packing.groups c.tagIndex).head? = some c := by
  have hlt := pairwise_tagIndex_lt h hg
  have hle := pairwise_tagIndex_le h
  rw [hchunks] at hlt
  have hbefore := (List.pairwise_append.1 hlt).2.2
  obtain ⟨gs, gs', hsplit⟩ := List.append_of_mem hg
  rw [hsplit] at hle
  have hearlier : (gs.flatMap (·.chunks) ++ first :: between).filter
      (·.tagIndex = c.tagIndex) = [] := by
    rw [List.filter_eq_nil_iff]
    intro c' hc'
    simp only [decide_eq_true_eq]
    rcases List.mem_append.1 hc' with hc' | hc'
    · -- A chunk of an earlier group does not come after the first one of this group.
      obtain ⟨g', hg', hmem⟩ := List.mem_flatMap.1 hc'
      have hfirst := (List.pairwise_append.1 hle).2.2 g' hg' g (by simp) c' hmem first
        (by simp [hchunks])
      have hnext := hbefore first (by simp) c (by simp)
      omega
    · have hnext := hbefore c' hc' c (by simp)
      omega
  rw [chunksOfRequest, hsplit, List.flatMap_append, List.flatMap_cons, hchunks,
    List.append_assoc, ← List.append_assoc, List.filter_append, hearlier, List.nil_append,
    List.cons_append, List.filter_cons_of_pos (by simp), List.head?_cons]

/-- Whether the group at an index has a chunk of a request. -/
def CarriedAt (groups : List Group) (tag i : ℕ) : Prop :=
  ∃ g, groups[i]? = some g ∧ ∃ c ∈ g.chunks, c.tagIndex = tag

/-- Requests are cut only at the end of a full group. A group has at most one chunk of a request,
and the groups that have one follow each other. A chunk that is not the last one of its request ends
a group that is exactly full, one that is not the first begins its group, and one that is neither is
alone in it. The chunks that are called partial are those of the requests that are cut. -/
structure CutOnlyWhenFull (b : Budget) (groups : List Group) : Prop where
  nodup : ∀ g ∈ groups, (g.chunks.map (·.tagIndex)).Nodup
  consecutive : ∀ tag i j k, i ≤ j → j ≤ k → CarriedAt groups tag i → CarriedAt groups tag k →
    CarriedAt groups tag j
  not_last : ∀ g ∈ groups, ∀ c ∈ g.chunks,
    (chunksOfRequest groups c.tagIndex).getLast? ≠ some c →
      g.chunks.getLast? = some c ∧ g.totalLength = b.target
  not_first : ∀ g ∈ groups, ∀ c ∈ g.chunks,
    (chunksOfRequest groups c.tagIndex).head? ≠ some c → g.chunks.head? = some c
  between : ∀ g ∈ groups, ∀ c ∈ g.chunks,
    (chunksOfRequest groups c.tagIndex).head? ≠ some c →
      (chunksOfRequest groups c.tagIndex).getLast? ≠ some c →
        g.chunks = [c] ∧ c.chunkSize = b.target - b.overhead
  isPartial_iff : ∀ g ∈ groups, ∀ c ∈ g.chunks,
    c.isPartial ↔ 2 ≤ (chunksOfRequest groups c.tagIndex).length

theorem mem_flatMap_chunks (hg : g ∈ packing.groups) (hc : c ∈ g.chunks) :
    c ∈ packing.groups.flatMap (·.chunks) :=
  List.mem_flatMap.2 ⟨g, hg, hc⟩

/-- A group with a chunk that leaves some of its request ends with it and is full. -/
theorem full_of_not_ends (h : pack d sizes b = .ok packing) (hg : g ∈ packing.groups)
    (hc : c ∈ g.chunks) (hends : ¬c.Ends) :
    g.chunks.getLast? = some c ∧ load b.overhead.toNat g.pieces = b.target.toNat ∧
      g.totalLength = b.target := by
  have hcut := cutWhenFull_of_pack h hg
  have hload := hcut.load_eq c hc hends
  have htotal := sum_totals_eq_load fun c' hc' => (marks_of_pack h hg hc').2.1
  have hlt := b.target.toNat_lt
  refine ⟨hcut.getLast?_eq hc hends, hload, ?_⟩
  rw [← UInt64.toNat_inj, g.toNat_totalLength (by rw [htotal, hload]; exact hlt), htotal, hload]

/-- A group that begins and ends with one chunk has no other. -/
theorem chunks_eq_singleton (h : pack d sizes b = .ok packing) (hg : g ∈ packing.groups)
    (hhead : g.chunks.head? = some c) (hlast : g.chunks.getLast? = some c) : g.chunks = [c] := by
  have hlt := pairwise_tagIndex_lt h hg
  obtain ⟨rest, hchunks⟩ := List.head?_eq_some_iff.1 hhead
  cases rest with
  | nil => exact hchunks
  | cons c' rest =>
      rw [hchunks, List.getLast?_cons_cons] at hlast
      rw [hchunks] at hlt
      have hself := List.rel_of_pairwise_cons hlt (List.mem_of_getLast? hlast)
      omega

theorem isPartial_iff_two_le (h : pack d sizes b = .ok packing) (hg : g ∈ packing.groups)
    (hc : c ∈ g.chunks) :
    c.isPartial ↔ 2 ≤ (chunksOfRequest packing.groups c.tagIndex).length := by
  have htile := tile_of_pack h (marks_of_pack h hg hc).1
  have hmem : c ∈ chunksOfRequest packing.groups c.tagIndex :=
    List.mem_filter.2 ⟨mem_flatMap_chunks hg hc, by simp⟩
  have hiff := htile.lt_stop_iff (List.mem_map_of_mem hmem)
  rw [List.length_map] at hiff
  rw [← hiff, Chunk.isPartial, decide_eq_true_eq, UInt64.lt_iff_toNat_lt]
  rfl

/-- The groups with a chunk of a request follow each other, for no group is empty and requests come
in order. -/
theorem carriedAt_of_pack (h : pack d sizes b = .ok packing) {tag i j k : ℕ} (hij : i ≤ j)
    (hjk : j ≤ k) (hi : CarriedAt packing.groups tag i) (hk : CarriedAt packing.groups tag k) :
    CarriedAt packing.groups tag j := by
  rcases Nat.eq_or_lt_of_le hij with rfl | hij
  · exact hi
  rcases Nat.eq_or_lt_of_le hjk with rfl | hjk
  · exact hk
  obtain ⟨gi, hgi, ci, hci, htagi⟩ := hi
  obtain ⟨gk, hgk, ck, hck, htagk⟩ := hk
  obtain ⟨hilt, rfl⟩ := List.getElem?_eq_some_iff.1 hgi
  obtain ⟨hklt, rfl⟩ := List.getElem?_eq_some_iff.1 hgk
  have hjlt : j < packing.groups.length := Nat.lt_trans hjk hklt
  have hle := List.pairwise_iff_getElem.1 (pairwise_tagIndex_le h)
  have hne := (admits_of_pack h (List.getElem_mem hjlt)).ne_nil
  obtain ⟨c, hc⟩ := List.exists_mem_of_ne_nil packing.groups[j].chunks
    (by simpa [Group.pieces] using hne)
  have hafter := hle i j hilt hjlt hij ci hci c hc
  have hbefore := hle j k hjlt hklt hjk c hc ck hck
  exact ⟨packing.groups[j], List.getElem?_eq_getElem hjlt, c, hc, by omega⟩

theorem not_ends_of_not_last (h : pack d sizes b = .ok packing) (hg : g ∈ packing.groups)
    (hc : c ∈ g.chunks)
    (hlast : (chunksOfRequest packing.groups c.tagIndex).getLast? ≠ some c) : ¬c.Ends :=
  mt (getLast?_chunksOfRequest h (mem_flatMap_chunks hg hc)) hlast

theorem head?_of_not_first (h : pack d sizes b = .ok packing) (hg : g ∈ packing.groups)
    (hc : c ∈ g.chunks)
    (hfirst : (chunksOfRequest packing.groups c.tagIndex).head? ≠ some c) :
    g.chunks.head? = some c := by
  obtain ⟨before, after, hsplit⟩ := List.append_of_mem hc
  cases before with
  | nil => rw [hsplit, List.nil_append, List.head?_cons]
  | cons first between => exact absurd (head?_chunksOfRequest h hg hsplit) hfirst

/-- A chunk that is neither the first nor the last one of its request is alone in its group, and as
large as one chunk can be. -/
theorem alone_of_between (h : pack d sizes b = .ok packing) (hg : g ∈ packing.groups)
    (hc : c ∈ g.chunks)
    (hfirst : (chunksOfRequest packing.groups c.tagIndex).head? ≠ some c)
    (hlast : (chunksOfRequest packing.groups c.tagIndex).getLast? ≠ some c) :
    g.chunks = [c] ∧ c.chunkSize = b.target - b.overhead := by
  obtain ⟨hb, -⟩ := pack_eq_ok_iff.1 h
  obtain ⟨hend, hload, -⟩ := full_of_not_ends h hg hc (not_ends_of_not_last h hg hc hlast)
  have hchunks := chunks_eq_singleton h hg (head?_of_not_first h hg hc hfirst) hend
  have hfull : c.chunkSize.toNat + b.overhead.toNat = b.target.toNat := by
    simpa [Group.pieces, hchunks, Chunk.piece] using hload
  refine ⟨hchunks, UInt64.toNat_inj.1 ?_⟩
  rw [UInt64.toNat_sub_of_le _ _ (UInt64.le_of_lt hb.1)]
  omega

/-- Packing under an accepted budget cuts requests only where a group is full. -/
theorem pack_cuts_only_when_full (d : Direction) (sizes : List UInt64) (b : Budget)
    (h : b.Accepted d) :
    ∃ packing, pack d sizes b = .ok packing ∧ CutOnlyWhenFull b packing.groups := by
  have hpack := pack_of_accepted h sizes
  refine ⟨_, hpack, ?_⟩
  constructor
  case nodup =>
    intro g hg
    exact List.pairwise_map.2 ((pairwise_tagIndex_lt hpack hg).imp Nat.ne_of_lt)
  case consecutive =>
    intro tag i j k hij hjk hi hk
    exact carriedAt_of_pack hpack hij hjk hi hk
  case not_last =>
    intro g hg c hc hlast
    obtain ⟨hend, -, htotal⟩ :=
      full_of_not_ends hpack hg hc (not_ends_of_not_last hpack hg hc hlast)
    exact ⟨hend, htotal⟩
  case not_first =>
    intro g hg c hc hfirst
    exact head?_of_not_first hpack hg hc hfirst
  case between =>
    intro g hg c hc hfirst hlast
    exact alone_of_between hpack hg hc hfirst hlast
  case isPartial_iff =>
    intro g hg c hc
    exact isPartial_iff_two_le hpack hg hc

/-- A request that takes four groups: it begins behind another one, fills two groups alone, and ends
before another one. -/
theorem pack_cuts_only_when_full_four :
    (⟨226, 5, 12⟩ : Budget).Accepted .read ∧
      ∃ packing, pack .read [100, 600, 7] ⟨226, 5, 12⟩ = .ok packing ∧
        packing.groups.map (fun g => g.chunks.map fun c => (c.tagIndex, c.chunkSize)) =
          [[(0, 100), (1, 116)], [(1, 221)], [(1, 221)], [(1, 42), (2, 7)]] ∧
        CutOnlyWhenFull ⟨226, 5, 12⟩ packing.groups := by
  have h : (⟨226, 5, 12⟩ : Budget).Accepted .read := by decide
  have hchunks : (pack .read [100, 600, 7] ⟨226, 5, 12⟩).map
      (fun p => p.groups.map fun g => g.chunks.map fun c => (c.tagIndex, c.chunkSize)) =
      .ok [[(0, 100), (1, 116)], [(1, 221)], [(1, 221)], [(1, 42), (2, 7)]] := by cbv
  obtain ⟨packing, hpack, hcut⟩ := pack_cuts_only_when_full .read [100, 600, 7] ⟨226, 5, 12⟩ h
  rw [hpack] at hchunks
  exact ⟨h, packing, hpack, Except.ok.inj hchunks, hcut⟩

end S7Request
