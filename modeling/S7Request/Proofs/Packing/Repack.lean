import S7Request.Proofs.Packing.Alike
import S7Request.Proofs.Packing.Partition

/-!
# Packing chunks again

The chunks of a packing may be packed as requests of their own. Each of them then takes one round
and is cut no further, for it fitted into the same group before, and what a group has used decides
alone when it is closed. So two packers that agree on what their groups hold stay in agreement, and
the chunks come to stand in the groups that they were taken from.
-/
namespace S7Request

/-- How much each chunk of a group carries. -/
def Group.chunkSizes (g : Group) : List UInt64 :=
  g.chunks.map (·.chunkSize)

namespace Packer

/-- Two packers hold chunks of the same sizes in the same groups, whatever the chunks are cut
from. -/
structure Agree (p q : Packer) : Prop where
  closed : p.closed.toList.map (·.group.chunkSizes) = q.closed.toList.map (·.group.chunkSizes)
  opened : p.opened.chunkSizes = q.opened.chunkSizes
  used : p.used = q.used

variable {l : Limits} {p q : Packer}

theorem Agree.refl (p : Packer) : p.Agree p :=
  ⟨rfl, rfl, rfl⟩

/-- To agree is to look alike, seen through the chunk sizes. -/
theorem agree_iff_alike : p.Agree q ↔ p.Alike (·.chunkSize) (·.chunkSize) q :=
  ⟨fun h => ⟨h.closed, h.opened, h.used⟩, fun h => ⟨h.closed, h.opened, h.used⟩⟩

/-- What fits into a group fits into it whole. -/
theorem share_share (l : Limits) (p : Packer) (remaining : UInt64) :
    p.share l (p.share l remaining) = p.share l remaining := by
  unfold share
  by_cases h : remaining ≤ l.target - p.used - l.overhead
  · simp only [if_pos h]
  · simp only [if_neg h, UInt64.le_refl, if_true]

/-- A request as large as the next chunk takes one round. -/
theorem cut_share (l : Limits) (tag : ℕ) (p : Packer) {remaining n : UInt64} (hr : remaining ≠ 0)
    (hn : n = (p.makeRoom l).share l remaining) :
    p.cut l tag n 0 n = p.round l tag n 0 n := by
  have hwhole : (p.makeRoom l).share l n = n := by rw [hn, share_share]
  have hne : n ≠ 0 := by
    have hpos := share_pos l p hr
    rw [← hn] at hpos
    rintro rfl
    exact absurd hpos (Nat.lt_irrefl 0)
  rw [cut_eq_round l tag n 0 p hne, hwhole, UInt64.sub_self, cut_zero]

theorem Agree.round (h : p.Agree q) (tag tag' : ℕ) (size offset : UInt64) {remaining n : UInt64}
    (hn : n = (p.makeRoom l).share l remaining) :
    (p.round l tag size offset remaining).Agree (q.round l tag' n 0 n) := by
  have halike := (agree_iff_alike.1 h).makeRoom (l := l)
  have hsize : (p.nextChunk l tag size offset remaining).chunkSize =
      (q.nextChunk l tag' n 0 n).chunkSize :=
    calc
      (p.makeRoom l).share l remaining = (p.makeRoom l).share l n := by rw [hn, share_share]
      _ = (q.makeRoom l).share l n := halike.share_eq n
  have htotal : (p.nextChunk l tag size offset remaining).totalLength =
      (q.nextChunk l tag' n 0 n).totalLength := congrArg (· + l.overhead) hsize
  exact agree_iff_alike.2 (halike.put hsize htotal).settle

/-- Adding the chunks of a request as requests of their own agrees with cutting the request. -/
theorem exists_agree_cut (l : Limits) (tag : ℕ) (size offset remaining : UInt64) (p : Packer) :
    ∃ own, (p.cut l tag size offset remaining).placed = p.placed ++ own ∧
      ∀ q tag', p.Agree q →
        (p.cut l tag size offset remaining).Agree (q.addAll l tag' (own.map (·.chunkSize))) := by
  induction offset, remaining, p using cut.induct l tag size with
  | case1 offset p => exact ⟨[], by simp, fun q tag' h => by simpa [addAll] using h⟩
  | case2 offset remaining p hr roomy n ih =>
      obtain ⟨own, hplaced, hagree⟩ := ih
      refine ⟨p.nextChunk l tag size offset remaining :: own, ?_, fun q tag' h => ?_⟩
      · rw [cut_eq_round l tag size offset p hr]
        exact hplaced.trans (by simp [roomy, n, nextChunk])
      · have hn : n = (q.makeRoom l).share l remaining :=
          (agree_iff_alike.1 h).makeRoom.share_eq remaining
        -- The round makes a chunk of `n` bytes, and a request of `n` bytes is one round.
        have hround : (p.round l tag size offset remaining).Agree (q.round l tag' n 0 n) :=
          h.round tag tag' size offset rfl
        rw [← cut_share l tag' q hr hn] at hround
        rw [cut_eq_round l tag size offset p hr]
        exact hagree _ (tag' + 1) hround

/-- Adding the chunks of requests as requests of their own agrees with packing the requests. -/
theorem exists_agree_addAll (l : Limits) (tag : ℕ) (sizes : List UInt64) (p : Packer) :
    ∃ new, (p.addAll l tag sizes).placed = p.placed ++ new ∧
      ∀ q tag', p.Agree q →
        (p.addAll l tag sizes).Agree (q.addAll l tag' (new.map (·.chunkSize))) := by
  induction sizes generalizing tag p with
  | nil => exact ⟨[], by simp [addAll], fun q tag' h => h⟩
  | cons size rest ih =>
      obtain ⟨own, hown, hcut⟩ := exists_agree_cut l tag size 0 size p
      obtain ⟨later, hlater, hrest⟩ := ih (tag + 1) (p.cut l tag size 0 size)
      refine ⟨own ++ later, ?_, fun q tag' h => ?_⟩
      · rw [addAll, hlater, hown, List.append_assoc]
      · rw [addAll, List.map_append, addAll_append]
        exact hrest _ _ (hcut q tag' h)

theorem Agree.groups (h : p.Agree q) :
    p.groups.map Group.chunkSizes = q.groups.map Group.chunkSizes :=
  (agree_iff_alike.1 h).groups

end Packer

variable {d : Direction} {b : Budget} {sizes : List UInt64} {packing : Packing}

/-- Packing the chunks of a packing again puts them into the same groups. -/
theorem exists_pack_chunkSizes (h : pack d sizes b = .ok packing) :
    ∃ again, pack d (packing.groups.flatMap Group.chunkSizes) b = .ok again ∧
      again.groups.map Group.chunkSizes = packing.groups.map Group.chunkSizes := by
  obtain ⟨hb, rfl⟩ := pack_eq_ok_iff.1 h
  refine ⟨_, pack_of_accepted hb _, ?_⟩
  obtain ⟨new, hplaced, hagree⟩ := Packer.exists_agree_addAll (b.limits d hb) 0 sizes .empty
  have hsizes : (Packer.empty.addAll (b.limits d hb) 0 sizes).groups.flatMap Group.chunkSizes =
      new.map (·.chunkSize) := by
    rw [Packer.placed_empty, List.nil_append] at hplaced
    rw [← hplaced, ← Packer.flatMap_groups, List.map_flatMap]
    rfl
  have hsame := (hagree .empty 0 (.refl _)).groups
  rw [← hsizes] at hsame
  exact hsame.symm

/-- Chunks that are as large as the requests, one by one, are the whole requests. -/
theorem whole_of_pack (h : pack d sizes b = .ok packing)
    (hsizes : packing.groups.flatMap Group.chunkSizes = sizes) {i : ℕ} {c : Chunk}
    (hc : (packing.groups.flatMap (·.chunks))[i]? = some c) :
    c.tagIndex = i ∧ c.offset = 0 ∧ c.chunkSize = c.requestSize := by
  have hlength : (packing.groups.flatMap Group.pieces).map Piece.length = sizes.map (·.toNat) := by
    rw [← hsizes, List.map_flatMap, List.map_flatMap]
    simp [Group.pieces, Group.chunkSizes, Chunk.piece, Function.comp_def]
  have hpiece : (packing.groups.flatMap Group.pieces)[i]? = some c.piece := by
    rw [Packing.flatMap_pieces, ← Packing.flatMap_chunks, List.getElem?_map, hc, Option.map_some]
  obtain ⟨htag, hoffset⟩ := (cover_of_pack h).tag_eq_of_map_length hlength hpiece
  have hindex : c.tagIndex = i := htag.trans (Nat.zero_add i)
  obtain ⟨g, hg, hmem⟩ := List.mem_flatMap.1 (List.mem_of_getElem? hc)
  have hrequest := (marks_of_pack h hg hmem).1
  have hchunk : sizes[i]? = some c.chunkSize := by
    have hmap : packing.groups.flatMap Group.chunkSizes =
        (packing.groups.flatMap (·.chunks)).map (·.chunkSize) := List.map_flatMap.symm
    rw [← hsizes, hmap, List.getElem?_map, hc, Option.map_some]
  rw [hindex, hchunk] at hrequest
  exact ⟨hindex, UInt64.toNat_inj.1 hoffset, Option.some.inj hrequest⟩

example :
    (pack .write [30, 4] ⟨26, 5, 0⟩).map (·.groups.map Group.chunkSizes) = .ok [[21], [9, 4]] ∧
      (pack .write [21, 9, 4] ⟨26, 5, 0⟩).map (·.groups.map Group.chunkSizes) =
        .ok [[21], [9, 4]] := by
  constructor <;> cbv

end S7Request
