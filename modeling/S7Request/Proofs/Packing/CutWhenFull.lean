import S7Request.Proofs.Packing.Partition

/-!
# Groups that are cut when full

A round either puts all that remains of a request or fills the open group to the target, and a group
that is filled to the target is closed. So a chunk that leaves some of its request is the last one
of a group that is exactly full.
-/
namespace S7Request

open Piece

/-- The chunk ends where its request does. -/
def Chunk.Ends (c : Chunk) : Prop :=
  c.offset.toNat + c.chunkSize.toNat = c.requestSize.toNat

/-- Only the last chunk of the group may leave some of its request, and then the group is full. -/
structure Group.CutWhenFull (target overhead : ℕ) (g : Group) : Prop where
  ends : ∀ c ∈ g.chunks.dropLast, c.Ends
  load_eq : ∀ c ∈ g.chunks, ¬c.Ends → load overhead g.pieces = target

theorem Group.CutWhenFull.getLast?_eq {target overhead : ℕ} {g : Group}
    (h : g.CutWhenFull target overhead) {c : Chunk} (hc : c ∈ g.chunks) (hends : ¬c.Ends) :
    g.chunks.getLast? = some c := by
  rcases List.eq_nil_or_concat g.chunks with hnil | ⟨init, last, hsplit⟩
  · simp [hnil] at hc
  · rw [List.concat_eq_append] at hsplit
    have hinit := h.ends c
    rw [hsplit, List.dropLast_concat] at hinit
    rw [hsplit] at hc ⊢
    rcases List.mem_append.1 hc with hc | hc
    · exact absurd (hinit hc) hends
    · rw [List.mem_singleton.1 hc, List.getLast?_concat]

namespace Packer

variable {l : Limits} {p : Packer} {size offset remaining : UInt64}

/-- All groups, the open one among them, have requests cut only where they are full. -/
def CutWhenFull (l : Limits) (p : Packer) : Prop :=
  ∀ g ∈ p.groups, g.CutWhenFull l.target.toNat l.overhead.toNat

/-- Between two rounds the open group is not full, so its chunks leave nothing of their requests. -/
theorem CutWhenFull.ends_of_opened (h : p.CutWhenFull l) (hs : p.Sound l) :
    ∀ c ∈ p.opened.chunks, c.Ends := by
  intro c hc
  have hne : p.chunks ≠ #[] := by
    rintro hempty
    simp [opened, hempty] at hc
  have hopened := h p.opened (by simp [groups_of_ne hne])
  by_contra hends
  have hload := hopened.load_eq c hc hends
  have hused := hs.used_eq
  have hfree := hs.reserve_free
  omega

theorem CutWhenFull.makeRoom (h : p.CutWhenFull l) (hs : p.Sound l) :
    (p.makeRoom l).CutWhenFull l := by
  rw [CutWhenFull, hs.groups_makeRoom]
  exact h

theorem CutWhenFull.settle (h : p.CutWhenFull l) (hne : p.chunks ≠ #[]) :
    (p.settle l).CutWhenFull l := by
  rw [CutWhenFull, groups_settle l hne]
  exact h

/-- A chunk is all that remains of its request, or it fills the group. -/
theorem Sound.ends_or_load_eq (hs : p.Sound l) (tag : ℕ) (hr : remaining ≠ 0)
    (hsize : offset.toNat + remaining.toNat = size.toNat) :
    (p.nextChunk l tag size offset remaining).Ends ∨
      load l.overhead.toNat
        ((p.makeRoom l).put (p.nextChunk l tag size offset remaining)).opened.pieces =
          l.target.toNat := by
  have hshare := hs.toNat_share remaining
  have hroom := hs.room
  rw [← (hs.put_nextChunk tag size offset hr).used_eq, hs.toNat_used_put tag size offset hr]
  by_cases hfits :
      remaining.toNat ≤ l.target.toNat - (p.makeRoom l).used.toNat - l.overhead.toNat
  · left
    change offset.toNat + ((p.makeRoom l).share l remaining).toNat = size.toNat
    omega
  · right
    omega

theorem CutWhenFull.put_nextChunk (h : p.CutWhenFull l) (hs : p.Sound l) (tag : ℕ)
    (hr : remaining ≠ 0) (hsize : offset.toNat + remaining.toNat = size.toNat) :
    ((p.makeRoom l).put (p.nextChunk l tag size offset remaining)).CutWhenFull l := by
  have hroomy := h.makeRoom hs
  have hends := hroomy.ends_of_opened hs.makeRoom
  intro g hg
  rcases groups_put hg with hg | rfl
  · exact hroomy g hg
  · have hchunks : ((p.makeRoom l).put (p.nextChunk l tag size offset remaining)).opened.chunks =
        (p.makeRoom l).opened.chunks ++ [p.nextChunk l tag size offset remaining] := by
      simp [Packer.put, opened]
    constructor
    · rw [hchunks, List.dropLast_concat]
      exact hends
    · intro c hc hcut
      rw [hchunks] at hc
      rcases List.mem_append.1 hc with hc | hc
      · exact absurd (hends c hc) hcut
      · obtain rfl := List.mem_singleton.1 hc
        exact (hs.ends_or_load_eq tag hr hsize).resolve_left hcut

theorem CutWhenFull.round (h : p.CutWhenFull l) (hs : p.Sound l) (tag : ℕ)
    (hr : remaining ≠ 0) (hsize : offset.toNat + remaining.toNat = size.toNat) :
    (p.round l tag size offset remaining).CutWhenFull l :=
  (h.put_nextChunk hs tag hr hsize).settle (chunks_put_ne _ _)

theorem CutWhenFull.addAll (h : p.CutWhenFull l) (hs : p.Sound l) (tag : ℕ)
    (sizes : List UInt64) : (p.addAll l tag sizes).CutWhenFull l :=
  (addAll_induction l (I := fun q => q.Sound l ∧ q.CutWhenFull l)
    (fun tag _ _ _ _ hr hsize hq => ⟨hq.1.round hr, hq.2.round hq.1 tag hr hsize⟩)
    tag sizes ⟨hs, h⟩).2

end Packer

/-- Packing leaves groups that are full wherever a request is cut. -/
theorem cutWhenFull_of_pack {d : Direction} {b : Budget} {sizes : List UInt64} {packing : Packing}
    (h : pack d sizes b = .ok packing) {g : Group} (hg : g ∈ packing.groups) :
    g.CutWhenFull b.target.toNat b.overhead.toNat := by
  obtain ⟨hb, rfl⟩ := pack_eq_ok_iff.1 h
  have hempty : Packer.empty.CutWhenFull (b.limits d hb) := by
    simp [Packer.CutWhenFull, Packer.groups, Packer.empty]
  have hcut := hempty.addAll (Packer.sound_empty (b.limits d hb)) 0 sizes g hg
  rwa [Budget.limits_target, Budget.limits_overhead] at hcut

end S7Request
