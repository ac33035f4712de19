import S7Request.Proofs.Packing.Round
import Mathlib.Order.Basic

/-!
# How full groups are

Between two rounds the open group has its reserve free, and what the packer counts as used is the
load of the open group. So nothing wraps, a chunk takes no more than what is left of the target, and
every group, closed or open, is `Admitted`.
-/
namespace S7Request

open Piece

/-- Pieces that may share a group: there are some, none is empty, they stay within the target, and
every piece but the first begins while the reserve is free. -/
structure Admitted (target overhead reserve : ℕ) (ps : List Piece) : Prop where
  ne_nil : ps ≠ []
  length_pos : ∀ p ∈ ps, 0 < p.length
  load_le : load overhead ps ≤ target
  reserve_free : ∀ before p after, ps = before ++ p :: after → before ≠ [] →
    load overhead before + reserve < target

/-- One more piece may be added while the reserve is free. -/
theorem Admitted.concat {target overhead reserve : ℕ} {ps : List Piece} {p : Piece}
    (h : ps = [] ∨ Admitted target overhead reserve ps) (hp : 0 < p.length)
    (hfree : load overhead ps + reserve < target) (hfits : load overhead (ps ++ [p]) ≤ target) :
    Admitted target overhead reserve (ps ++ [p]) where
  ne_nil := by simp
  length_pos q hq := by
    rcases List.mem_append.1 hq with hq | hq
    · rcases h with rfl | h
      · simp at hq
      · exact h.length_pos q hq
    · rwa [List.mem_singleton.1 hq]
  load_le := hfits
  reserve_free before q after he hne := by
    rcases List.eq_nil_or_concat after with rfl | ⟨after, r, rfl⟩
    · rwa [← (List.append_inj' he rfl).1]
    · have hassoc : before ++ q :: after.concat r = (before ++ q :: after) ++ [r] := by simp
      have hps : ps = before ++ q :: after := (List.append_inj' (he.trans hassoc) rfl).1
      rcases h with rfl | h
      · simp at hps
      · exact h.reserve_free before q after hps hne

/-- Whether a group may stand in a packing under the limits. -/
abbrev Limits.Admits (l : Limits) (g : Group) : Prop :=
  Admitted l.target.toNat l.overhead.toNat l.reserve.toNat g.pieces

theorem Chunk.toNat_totalLength {c : Chunk} {t : ℕ} (ht : t < UInt64.size)
    (h : c.chunkSize.toNat + c.overheadSize.toNat ≤ t) :
    c.totalLength.toNat = c.chunkSize.toNat + c.overheadSize.toNat := by
  rw [totalLength, UInt64.toNat_add, Nat.mod_eq_of_lt (Nat.lt_of_le_of_lt h ht)]

namespace Packer

def opened (p : Packer) : Group :=
  ⟨p.chunks.toList⟩

/-- The open group is counted and every group is admitted. -/
structure Filled (l : Limits) (p : Packer) : Prop where
  used_eq : p.used.toNat = load l.overhead.toNat p.opened.pieces
  admits : ∀ g ∈ p.groups, l.Admits g

/-- What holds between two rounds: the open group has its reserve free, too. -/
structure Sound (l : Limits) (p : Packer) : Prop extends p.Filled l where
  reserve_free : p.used.toNat + l.reserve.toNat < l.target.toNat

theorem groups_of_ne {p : Packer} (h : p.chunks ≠ #[]) :
    p.groups = p.closed.toList.map (·.group) ++ [p.opened] := by simp [groups, opened, h]

theorem groups_close {p : Packer} (full : Bool) (h : p.chunks ≠ #[]) :
    (p.close full).groups = p.groups := by
  rw [groups_of_ne h]
  simp [groups, close, opened]

theorem groups_settle (l : Limits) {p : Packer} (h : p.chunks ≠ #[]) :
    (p.settle l).groups = p.groups := by
  unfold settle
  split
  · exact groups_close false h
  · rfl

theorem sound_empty (l : Limits) : empty.Sound l where
  used_eq := rfl
  admits := by simp [groups, empty]
  reserve_free := by
    have := UInt64.lt_iff_toNat_lt.1 l.reserve_lt_target
    simpa [empty] using this

theorem Filled.close {l : Limits} {p : Packer} (h : p.Filled l) (full : Bool)
    (hne : p.chunks ≠ #[]) : (p.close full).Sound l where
  used_eq := rfl
  admits := by
    rw [groups_close full hne]
    exact h.admits
  reserve_free := (sound_empty l).reserve_free

theorem Sound.toNat_target_sub {l : Limits} {p : Packer} (h : p.Sound l) :
    (l.target - p.used).toNat = l.target.toNat - p.used.toNat := by
  have := h.reserve_free
  exact UInt64.toNat_sub_of_le _ _ (UInt64.le_iff_toNat_le.2 (by omega))

/-- A group cannot take one more byte of payload once the overhead of its chunk reaches the
target. -/
theorem Sound.full_iff {l : Limits} {p : Packer} (h : p.Sound l) :
    l.target - p.used ≤ l.overhead ↔ l.target.toNat ≤ p.used.toNat + l.overhead.toNat := by
  rw [UInt64.le_iff_toNat_le, h.toNat_target_sub]
  omega

/-- A clamped sum reaches the target exactly when the sum does. -/
theorem reserve_reached_iff (l : Limits) (p : Packer) :
    l.target ≤ Word.addClamped p.used l.reserve ↔
      l.target.toNat ≤ p.used.toNat + l.reserve.toNat := by
  have hlt := l.target.toNat_lt
  rw [UInt64.le_iff_toNat_le, Word.toNat_addClamped]
  simp only [UInt64.size]
  omega

/-- A group that is closed to make room is not empty. -/
theorem Sound.ne_of_full {l : Limits} {p : Packer} (h : p.Sound l)
    (hfull : l.target - p.used ≤ l.overhead) : p.chunks ≠ #[] := by
  intro hempty
  have hused := h.used_eq
  have hroom := UInt64.lt_iff_toNat_lt.1 l.overhead_lt_target
  simp only [opened, hempty, Group.pieces, List.map_nil, load_nil] at hused
  rw [h.full_iff] at hfull
  omega

theorem Sound.makeRoom {l : Limits} {p : Packer} (h : p.Sound l) : (p.makeRoom l).Sound l := by
  unfold Packer.makeRoom
  split
  · rename_i hfull
    exact h.toFilled.close true (h.ne_of_full hfull)
  · exact h

/-- Making room closes a group but makes none. -/
theorem Sound.groups_makeRoom {l : Limits} {p : Packer} (h : p.Sound l) :
    (p.makeRoom l).groups = p.groups := by
  unfold Packer.makeRoom
  split
  · rename_i hfull
    exact groups_close true (h.ne_of_full hfull)
  · rfl

/-- Once there is room, a chunk with payload fits. -/
theorem Sound.room {l : Limits} {p : Packer} (h : p.Sound l) :
    (p.makeRoom l).used.toNat + l.overhead.toNat < l.target.toNat := by
  have := UInt64.lt_iff_toNat_lt.1 (overhead_lt_makeRoom l p)
  rw [h.makeRoom.toNat_target_sub] at this
  omega

/-- A chunk is what remains of its request or fills its group. -/
theorem Sound.toNat_share {l : Limits} {p : Packer} (h : p.Sound l) (remaining : UInt64) :
    ((p.makeRoom l).share l remaining).toNat =
      min remaining.toNat (l.target.toNat - (p.makeRoom l).used.toNat - l.overhead.toNat) := by
  rw [Packer.toNat_share, h.makeRoom.toNat_target_sub]

/-- The next chunk and its overhead stay within the target. -/
theorem Sound.share_fits {l : Limits} {p : Packer} (h : p.Sound l) (remaining : UInt64) :
    (p.makeRoom l).used.toNat + (((p.makeRoom l).share l remaining).toNat + l.overhead.toNat) ≤
      l.target.toNat := by
  have hroom := h.room
  have hshare := h.toNat_share remaining
  omega

theorem chunks_put_ne (c : Chunk) (p : Packer) : (p.put c).chunks ≠ #[] := by simp [put]

theorem pieces_opened_put (c : Chunk) (p : Packer) :
    (p.put c).opened.pieces = p.opened.pieces ++ [c.piece] := by simp [put, opened, Group.pieces]

theorem groups_put {c : Chunk} {p : Packer} {g : Group} (hg : g ∈ (p.put c).groups) :
    g ∈ p.groups ∨ g = (p.put c).opened := by
  rw [groups_of_ne (chunks_put_ne c p)] at hg
  rcases List.mem_append.1 hg with hg | hg
  · exact .inl (List.mem_append_left _ hg)
  · exact .inr (List.mem_singleton.1 hg)

/-- The open group is empty or counts among the groups. -/
theorem opened_pieces_or (p : Packer) : p.opened.pieces = [] ∨ p.opened ∈ p.groups := by
  by_cases h : p.chunks = #[]
  · exact .inl (by simp [opened, Group.pieces, h])
  · exact .inr (by simp [groups_of_ne h])

/-- A chunk that fits keeps the open group counted and every group admitted. -/
theorem Sound.put {l : Limits} {p : Packer} (h : p.Sound l) {c : Chunk}
    (hoverhead : c.overheadSize = l.overhead) (hpos : 0 < c.chunkSize.toNat)
    (hfits : p.used.toNat + (c.chunkSize.toNat + l.overhead.toNat) ≤ l.target.toNat) :
    (p.put c).Filled l := by
  have hlt := l.target.toNat_lt
  have hload : load l.overhead.toNat (p.opened.pieces ++ [c.piece]) =
      p.used.toNat + (c.chunkSize.toNat + l.overhead.toNat) := by
    simp [h.used_eq, Chunk.piece]
  refine ⟨?_, fun g hg => ?_⟩
  · rw [pieces_opened_put, hload]
    change (p.used + c.totalLength).toNat = _
    rw [UInt64.toNat_add, Chunk.toNat_totalLength hlt (by rw [hoverhead]; omega), hoverhead,
      Nat.mod_eq_of_lt (by omega)]
  · rcases groups_put hg with hg | rfl
    · exact h.admits g hg
    · rw [Limits.Admits, pieces_opened_put]
      refine Admitted.concat (p.opened_pieces_or.imp_right (h.admits _)) hpos ?_ (by omega)
      rw [← h.used_eq]
      exact h.reserve_free

/-- The reserve is free unless the group is closed. -/
theorem Filled.settle {l : Limits} {p : Packer} (h : p.Filled l) (hne : p.chunks ≠ #[]) :
    (p.settle l).Sound l := by
  unfold Packer.settle
  split
  · exact h.close false hne
  · rename_i hfree
    rw [reserve_reached_iff, Nat.not_le] at hfree
    exact ⟨h, hfree⟩

theorem Sound.put_nextChunk {l : Limits} {p : Packer} (h : p.Sound l) (tag : ℕ)
    (size offset : UInt64) {remaining : UInt64} (hr : remaining ≠ 0) :
    ((p.makeRoom l).put (p.nextChunk l tag size offset remaining)).Filled l :=
  h.makeRoom.put rfl (share_pos l p hr) (h.share_fits remaining)

/-- A chunk adds its payload and the overhead to what is used. -/
theorem Sound.toNat_used_put {l : Limits} {p : Packer} (h : p.Sound l) (tag : ℕ)
    (size offset : UInt64) {remaining : UInt64} (hr : remaining ≠ 0) :
    ((p.makeRoom l).put (p.nextChunk l tag size offset remaining)).used.toNat =
      (p.makeRoom l).used.toNat +
        (((p.makeRoom l).share l remaining).toNat + l.overhead.toNat) := by
  rw [(h.put_nextChunk tag size offset hr).used_eq, pieces_opened_put, load_append,
    ← h.makeRoom.used_eq]
  rfl

theorem Sound.round {l : Limits} {p : Packer} (h : p.Sound l) {tag : ℕ}
    {size offset remaining : UInt64} (hr : remaining ≠ 0) :
    (p.round l tag size offset remaining).Sound l :=
  (h.put_nextChunk tag size offset hr).settle (chunks_put_ne _ _)

theorem Sound.cut {l : Limits} {p : Packer} (h : p.Sound l) (tag : ℕ)
    (size offset remaining : UInt64) : (p.cut l tag size offset remaining).Sound l :=
  (cut_induction l tag size offset remaining (I := fun _ _ q => q.Sound l)
    (fun _ _ _ hr hq => hq.round hr) h).choose_spec

theorem Sound.addAll {l : Limits} {p : Packer} (h : p.Sound l) (tag : ℕ) (sizes : List UInt64) :
    (p.addAll l tag sizes).Sound l :=
  addAll_induction l (fun _ _ _ _ _ hr _ hq => hq.round hr) tag sizes h

theorem sound_addAll (l : Limits) (sizes : List UInt64) : (empty.addAll l 0 sizes).Sound l :=
  (sound_empty l).addAll 0 sizes

end Packer

end S7Request
