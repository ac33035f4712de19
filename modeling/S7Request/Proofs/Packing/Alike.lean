import S7Request.Proofs.Packing.Capacity

/-!
# Packers that look alike

Two packers look alike when their groups do: chunk by chunk they show the same, whatever is looked
at in a chunk, and the open groups are equally full. What a packer does next depends on its fill and
on the limits alone, so packers that look alike go on to do so.
-/
namespace S7Request.Packer

variable {α : Type} {f g : Chunk → α} {l : Limits} {p q : Packer}

/-- The groups of two packers show the same, seen through `f` on one side and `g` on the other. -/
structure Alike (f g : Chunk → α) (p q : Packer) : Prop where
  closed : p.closed.toList.map (·.group.chunks.map f) = q.closed.toList.map (·.group.chunks.map g)
  opened : p.opened.chunks.map f = q.opened.chunks.map g
  used : p.used = q.used

theorem Alike.close (h : p.Alike f g q) (full full' : Bool) :
    (p.close full).Alike f g (q.close full') where
  closed := by
    have hclosed := h.closed
    have hopened := h.opened
    simp only [Packer.opened] at hopened
    simp [Packer.close, hclosed, hopened]
  opened := rfl
  used := rfl

theorem Alike.makeRoom (h : p.Alike f g q) : (p.makeRoom l).Alike f g (q.makeRoom l) := by
  unfold Packer.makeRoom
  rw [h.used]
  split
  · exact h.close true true
  · exact h

theorem Alike.share_eq (h : p.Alike f g q) (remaining : UInt64) :
    p.share l remaining = q.share l remaining := by
  rw [share, share, h.used]

theorem Alike.put (h : p.Alike f g q) {c c' : Chunk} (hview : f c = g c')
    (htotal : c.totalLength = c'.totalLength) : (p.put c).Alike f g (q.put c') where
  closed := h.closed
  opened := by
    have hopened := h.opened
    simp only [Packer.opened] at hopened
    simp [Packer.put, Packer.opened, hopened, hview]
  used := by
    simp only [Packer.put, h.used, htotal]

theorem Alike.settle (h : p.Alike f g q) : (p.settle l).Alike f g (q.settle l) := by
  unfold Packer.settle
  rw [h.used]
  split
  · exact h.close false false
  · exact h

theorem Alike.round (h : p.Alike f g q) {tag tag' : ℕ} {size offset : UInt64}
    (hview : ∀ n, f ⟨tag, size, offset, n, l.overhead, l.margin⟩ =
      g ⟨tag', size, offset, n, l.overhead, l.margin⟩) (remaining : UInt64) :
    (p.round l tag size offset remaining).Alike f g (q.round l tag' size offset remaining) := by
  have hroomy : (p.makeRoom l).Alike f g (q.makeRoom l) := h.makeRoom
  have hshare := hroomy.share_eq (l := l) remaining
  have hnext : f (p.nextChunk l tag size offset remaining) =
      g (q.nextChunk l tag' size offset remaining) := by
    rw [nextChunk, nextChunk, hshare]
    exact hview _
  have htotal : (p.nextChunk l tag size offset remaining).totalLength =
      (q.nextChunk l tag' size offset remaining).totalLength :=
    congrArg (· + l.overhead) hshare
  exact (hroomy.put hnext htotal).settle

/-- Packers that look alike go on to do so when each cuts a request of the same size, if the chunks
of the two requests look alike. -/
theorem alike_cut {tag tag' : ℕ} {size : UInt64}
    (hview : ∀ offset n, f ⟨tag, size, offset, n, l.overhead, l.margin⟩ =
      g ⟨tag', size, offset, n, l.overhead, l.margin⟩) (offset remaining : UInt64) (p : Packer) :
    ∀ q : Packer, p.Alike f g q →
      (p.cut l tag size offset remaining).Alike f g (q.cut l tag' size offset remaining) := by
  induction offset, remaining, p using cut.induct l tag size with
  | case1 offset p =>
      intro q h
      simpa using h
  | case2 offset remaining p hr roomy n ih =>
      intro q h
      have hroomy : (p.makeRoom l).Alike f g (q.makeRoom l) := h.makeRoom
      have hshare : n = (q.makeRoom l).share l remaining := hroomy.share_eq remaining
      rw [cut_eq_round l tag size offset p hr, cut_eq_round l tag' size offset q hr, ← hshare]
      exact ih _ (h.round (hview offset) remaining)

theorem Alike.groups (h : p.Alike f g q) :
    p.groups.map (·.chunks.map f) = q.groups.map (·.chunks.map g) := by
  have hclosed := h.closed
  have hopened := h.opened
  have hempty : p.chunks = #[] ↔ q.chunks = #[] := by
    have hlength := congrArg List.length hopened
    simp only [Packer.opened, List.length_map, Array.length_toList] at hlength
    rw [← Array.size_eq_zero_iff, ← Array.size_eq_zero_iff, hlength]
  by_cases hp : p.chunks = #[]
  · have hq := hempty.1 hp
    simpa [Packer.groups, hp, hq, Function.comp_def] using hclosed
  · have hq := mt hempty.2 hp
    rw [groups_of_ne hp, groups_of_ne hq]
    simpa [hopened, Function.comp_def] using hclosed

/-- Groups that look as others do through a map of chunks are the others mapped. -/
theorem eq_map_of_map_chunks {φ : Chunk → Chunk} {gs hs : List Group}
    (h : gs.map (·.chunks.map id) = hs.map (·.chunks.map φ)) :
    gs = hs.map fun g => ⟨g.chunks.map φ⟩ := by
  have hmk := congrArg (List.map Group.mk) h
  simp only [List.map_id_fun, id_eq, List.map_map] at hmk
  exact (List.map_id _).symm.trans hmk

end S7Request.Packer
