import S7Request.Proofs.Packing.Partition

/-!
# When groups are closed

A group is closed for one of two reasons: its reserve is reached after a chunk, or, before the next
chunk, no byte of payload would fit beside another overhead. Together they are one rule. A closed
group leaves no more than the larger of overhead and reserve, and before its last chunk it left
more. So no group but the last can take one more chunk, and none took one that it had to refuse.
-/
namespace S7Request

open Piece

/-- The reason for which a group was closed holds of it. -/
structure ClosedGroup.Due (l : Limits) (c : ClosedGroup) : Prop where
  used_eq : c.used.toNat = load l.overhead.toNat c.group.pieces
  reserve_reached : c.full = false → l.target.toNat ≤ c.used.toNat + l.reserve.toNat
  no_room : c.full = true → c.used.toNat + l.reserve.toNat < l.target.toNat ∧
    l.target.toNat ≤ c.used.toNat + l.overhead.toNat

/-- Whatever the reason, the group leaves no more than the larger of overhead and reserve. -/
theorem ClosedGroup.Due.target_le {l : Limits} {c : ClosedGroup} (h : c.Due l) :
    l.target.toNat ≤
      load l.overhead.toNat c.group.pieces + max l.overhead.toNat l.reserve.toNat := by
  have hused := h.used_eq
  cases hfull : c.full with
  | false =>
      have hreached := h.reserve_reached hfull
      omega
  | true =>
      obtain ⟨-, hroom⟩ := h.no_room hfull
      omega

namespace Packer

variable {l : Limits} {p : Packer}

def ClosedWhenDue (l : Limits) (p : Packer) : Prop :=
  ∀ c ∈ p.closed.toList, c.Due l

theorem closedWhenDue_empty (l : Limits) : empty.ClosedWhenDue l := by
  simp [ClosedWhenDue, empty]

theorem ClosedWhenDue.close (h : p.ClosedWhenDue l) {full : Bool}
    (hdue : ClosedGroup.Due l ⟨p.opened, p.used, full⟩) : (p.close full).ClosedWhenDue l := by
  intro c hc
  simp only [Packer.close, Array.toList_push, List.mem_append, List.mem_singleton] at hc
  rcases hc with hc | rfl
  · exact h c hc
  · exact hdue

/-- Between two rounds the reserve is free, so room is made only for want of room. -/
theorem ClosedWhenDue.makeRoom (h : p.ClosedWhenDue l) (hs : p.Sound l) :
    (p.makeRoom l).ClosedWhenDue l := by
  unfold Packer.makeRoom
  split
  · rename_i hfull
    apply h.close
    constructor
    · exact hs.used_eq
    · simp
    · intro _
      exact ⟨hs.reserve_free, hs.full_iff.1 hfull⟩
  · exact h

theorem ClosedWhenDue.settle (h : p.ClosedWhenDue l) (hf : p.Filled l) :
    (p.settle l).ClosedWhenDue l := by
  unfold Packer.settle
  split
  · rename_i hreached
    apply h.close
    constructor
    · exact hf.used_eq
    · intro _
      exact (reserve_reached_iff l p).1 hreached
    · simp
  · exact h

theorem ClosedWhenDue.round {tag : ℕ} {size offset remaining : UInt64} (h : p.ClosedWhenDue l)
    (hs : p.Sound l) (hr : remaining ≠ 0) :
    (p.round l tag size offset remaining).ClosedWhenDue l := by
  have hroomy := h.makeRoom hs
  have hput : ((p.makeRoom l).put (p.nextChunk l tag size offset remaining)).ClosedWhenDue l :=
    hroomy
  exact hput.settle (hs.put_nextChunk tag size offset hr)

theorem ClosedWhenDue.addAll (h : p.ClosedWhenDue l) (hs : p.Sound l) (tag : ℕ)
    (sizes : List UInt64) : (p.addAll l tag sizes).ClosedWhenDue l :=
  (addAll_induction l (I := fun q => q.Sound l ∧ q.ClosedWhenDue l)
    (fun _ _ _ _ _ hr _ hq => ⟨hq.1.round hr, hq.2.round hq.1 hr⟩) tag sizes ⟨hs, h⟩).2

theorem closedWhenDue_addAll (l : Limits) (sizes : List UInt64) :
    (empty.addAll l 0 sizes).ClosedWhenDue l :=
  (closedWhenDue_empty l).addAll (sound_empty l) 0 sizes

/-- Only the last group may be one that the packer did not close. -/
theorem exists_closed_of_mem_dropLast {g : Group} (hg : g ∈ p.groups.dropLast) :
    ∃ c ∈ p.closed.toList, c.group = g := by
  by_cases hne : p.chunks = #[]
  · have hgroups : p.groups = p.closed.toList.map (·.group) := by simp [groups, hne]
    rw [hgroups] at hg
    exact List.mem_map.1 (List.dropLast_subset _ hg)
  · rw [groups_of_ne hne, List.dropLast_concat] at hg
    exact List.mem_map.1 hg

end Packer

/-- Where a piece begins that is not the first of its group, both the overhead and the reserve were
free. -/
theorem Admitted.room {target overhead reserve : ℕ} {ps before after : List Piece} {p : Piece}
    (h : Admitted target overhead reserve ps) (he : ps = before ++ p :: after)
    (hne : before ≠ []) : load overhead before + max overhead reserve < target := by
  have hfree := h.reserve_free before p after he hne
  have hpos := h.length_pos p (by simp [he])
  have hload := h.load_le
  rw [he, load_append, load_cons] at hload
  omega

/-- What chunks take up in a telegram, in unbounded numbers. -/
def Chunk.totals (cs : List Chunk) : ℕ :=
  (cs.map fun c => c.chunkSize.toNat + c.overheadSize.toNat).sum

/-- What a group keeps free: a read its margin, a write the overhead of one more chunk. -/
def Budget.reserve (d : Direction) (b : Budget) : UInt64 :=
  if d = .read then b.margin else b.overhead

/-- No group but the last could take one more chunk, and every group could, before it took its
last one. -/
structure ClosedInTime (d : Direction) (b : Budget) (groups : List Group) : Prop where
  target_le : ∀ g ∈ groups.dropLast,
    b.target.toNat ≤ Chunk.totals g.chunks + max b.overhead.toNat (b.reserve d).toNat
  lt_target : ∀ g ∈ groups, ∀ before after, g.chunks = before ++ after → before ≠ [] →
    after ≠ [] → Chunk.totals before + max b.overhead.toNat (b.reserve d).toNat < b.target.toNat

variable {d : Direction} {b : Budget} {sizes : List UInt64} {packing : Packing}

/-- The total of chunks of one group is their load. -/
theorem totals_eq_load (h : pack d sizes b = .ok packing) {g : Group} (hg : g ∈ packing.groups)
    {cs : List Chunk} (hcs : ∀ c ∈ cs, c ∈ g.chunks) :
    Chunk.totals cs = load b.overhead.toNat (cs.map Chunk.piece) :=
  sum_totals_eq_load (g := ⟨cs⟩) fun c hc => (marks_of_pack h hg (hcs c hc)).2.1

theorem target_le_of_mem_dropLast (h : pack d sizes b = .ok packing) {g : Group}
    (hg : g ∈ packing.groups.dropLast) :
    b.target.toNat ≤
      load b.overhead.toNat g.pieces + max b.overhead.toNat (b.reserve d).toNat := by
  obtain ⟨hb, rfl⟩ := pack_eq_ok_iff.1 h
  obtain ⟨c, hc, rfl⟩ := Packer.exists_closed_of_mem_dropLast hg
  have hle := (Packer.closedWhenDue_addAll (b.limits d hb) sizes c hc).target_le
  rw [Budget.limits_target, Budget.limits_overhead, Budget.limits_reserve] at hle
  exact hle

/-- Packing under an accepted budget closes every group exactly when it must. -/
theorem pack_closes_in_time (d : Direction) (sizes : List UInt64) (b : Budget)
    (h : b.Accepted d) :
    ∃ packing, pack d sizes b = .ok packing ∧ ClosedInTime d b packing.groups := by
  have hpack := pack_of_accepted h sizes
  refine ⟨_, hpack, ?_⟩
  constructor
  case target_le =>
    intro g hg
    rw [totals_eq_load hpack (List.dropLast_subset _ hg) fun c hc => hc]
    exact target_le_of_mem_dropLast hpack hg
  case lt_target =>
    intro g hg before after he hbefore hafter
    obtain ⟨c, rest, rfl⟩ := List.exists_cons_of_ne_nil hafter
    have hpieces : g.pieces = before.map Chunk.piece ++ c.piece :: rest.map Chunk.piece := by
      simp [Group.pieces, he]
    have hroom := (admits_of_pack hpack hg).room hpieces (by simpa using hbefore)
    rw [totals_eq_load hpack hg fun c hc => by simp [he, hc]]
    exact hroom

/-- A read with a margin below its overhead. The first group is closed for want of room, the second
because its reserve is reached, and the third is left open. -/
theorem pack_closes_in_time_small_margin :
    (⟨100, 10, 2⟩ : Budget).Accepted .read ∧
      ∃ packing, pack .read [85, 5, 80, 5] ⟨100, 10, 2⟩ = .ok packing ∧
        packing.groups.map (fun g => g.chunks.map (·.chunkSize)) = [[85], [5, 75], [5, 5]] ∧
        packing.packer.closed.toList.map (·.full) = [true, false] ∧
        ClosedInTime .read ⟨100, 10, 2⟩ packing.groups := by
  have h : (⟨100, 10, 2⟩ : Budget).Accepted .read := by decide
  obtain ⟨packing, hpack, htime⟩ := pack_closes_in_time .read [85, 5, 80, 5] ⟨100, 10, 2⟩ h
  have hgroups : (pack .read [85, 5, 80, 5] ⟨100, 10, 2⟩).map
      (fun p => p.groups.map fun g => g.chunks.map (·.chunkSize)) =
      .ok [[85], [5, 75], [5, 5]] := by cbv
  have hreasons : (pack .read [85, 5, 80, 5] ⟨100, 10, 2⟩).map
      (fun p => p.packer.closed.toList.map (·.full)) = .ok [true, false] := by cbv
  rw [hpack] at hgroups hreasons
  exact ⟨h, packing, hpack, Except.ok.inj hgroups, Except.ok.inj hreasons, htime⟩

end S7Request
