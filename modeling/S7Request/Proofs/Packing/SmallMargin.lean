import S7Request.Proofs.Packing.Alike
import S7Request.Proofs.Packing.Partition

/-!
# Reads with a small margin

A read whose margin is at most the overhead packs as a write does. The write closes a group at once
when no byte of payload would fit beside another overhead. The read may leave such a group open,
closes it before the next chunk, and counts it as its last group if there is none. So the write's
packer looks, after every round, like the read's packer once this has made room.
-/
namespace S7Request

def Chunk.withMargin (margin : UInt64) (c : Chunk) : Chunk :=
  { c with margin }

def Group.withMargin (margin : UInt64) (g : Group) : Group :=
  ⟨g.chunks.map (Chunk.withMargin margin)⟩

/-- Limits that may leave a group open which others close at once, for want of room. -/
structure Limits.Defers (l l' : Limits) : Prop where
  target_eq : l.target = l'.target
  overhead_eq : l.overhead = l'.overhead
  reserve_le : l.reserve ≤ l.overhead
  reserve_eq : l'.reserve = l'.overhead

theorem Budget.limits_defers {b b' : Budget} (hb : b.Accepted .read) (hb' : b'.Accepted .write)
    (htarget : b.target = b'.target) (hoverhead : b.overhead = b'.overhead)
    (hmargin : b.margin ≤ b.overhead) : (b.limits .read hb).Defers (b'.limits .write hb') where
  target_eq := htarget
  overhead_eq := hoverhead
  reserve_le := hmargin
  reserve_eq := rfl

namespace Packer

variable {l l' : Limits} {p q : Packer} {tag : ℕ} {size offset remaining : UInt64}

/-- An empty group has room. -/
theorem makeRoom_of_used_eq_zero (l : Limits) (h : p.used = 0) : p.makeRoom l = p := by
  have hroom : l.overhead < l.target - p.used := by simpa [h] using l.overhead_lt_target
  rw [makeRoom, if_neg (UInt64.not_le.2 hroom)]

/-- A reserve of at least the overhead leaves room for a chunk. -/
theorem Sound.makeRoom_eq_self (h : p.Sound l) (hreserve : l.overhead ≤ l.reserve) :
    p.makeRoom l = p := by
  have hfree := h.reserve_free
  rw [UInt64.le_iff_toNat_le] at hreserve
  rw [Packer.makeRoom, if_neg]
  rw [h.full_iff]
  omega

/-- A group without room is closed after its last chunk or before the next one. -/
theorem Filled.makeRoom_settle_of_full (h : p.Filled l) (hne : p.chunks ≠ #[])
    (hfull : l.target.toNat ≤ p.used.toNat + l.overhead.toNat) :
    ∃ full, (p.settle l).makeRoom l = p.close full := by
  by_cases hreached : l.target ≤ Word.addClamped p.used l.reserve
  · refine ⟨false, ?_⟩
    rw [Packer.settle, if_pos hreached]
    exact makeRoom_of_used_eq_zero l rfl
  · refine ⟨true, ?_⟩
    have hsettle : p.settle l = p := if_neg hreached
    have hs := h.settle hne
    rw [hsettle] at hs ⊢
    exact if_pos (hs.full_iff.2 hfull)

/-- A group with room stays open if the reserve is at most the overhead. -/
theorem Filled.makeRoom_settle_of_room (h : p.Filled l) (hne : p.chunks ≠ #[])
    (hreserve : l.reserve ≤ l.overhead)
    (hroom : p.used.toNat + l.overhead.toNat < l.target.toNat) :
    (p.settle l).makeRoom l = p := by
  rw [UInt64.le_iff_toNat_le] at hreserve
  have hsettle : p.settle l = p := by
    apply if_neg
    rw [reserve_reached_iff]
    omega
  have hs := h.settle hne
  rw [hsettle] at hs ⊢
  apply if_neg
  rw [hs.full_iff]
  omega

/-- The second packer looks like the first one once this has made room, apart from the margin. -/
def Follows (l : Limits) (p q : Packer) : Prop :=
  (p.makeRoom l).Alike id (Chunk.withMargin l.margin) q

end Packer

namespace Limits.Defers

open Packer

variable {l l' : Limits} {p q : Packer} {tag : ℕ} {size offset remaining : UInt64}

theorem makeRoom_eq_self (hl : l.Defers l') (hq : q.Sound l') : q.makeRoom l' = q := by
  apply hq.makeRoom_eq_self
  rw [hl.reserve_eq]
  exact UInt64.le_refl _

/-- Both packers cut off the same. -/
theorem share_eq (hl : l.Defers l') (hq : q.Sound l') (h : Follows l p q) (remaining : UInt64) :
    (p.makeRoom l).share l remaining = (q.makeRoom l').share l' remaining := by
  rw [hl.makeRoom_eq_self hq, share, share, h.used, hl.target_eq, hl.overhead_eq]

/-- After a chunk one packer settles what the other one settles or makes room for. -/
theorem follows_settle (hl : l.Defers l') (hp : p.Filled l) (hne : p.chunks ≠ #[])
    (h : p.Alike id (Chunk.withMargin l.margin) q) : Follows l (p.settle l) (q.settle l') := by
  have hreached : l'.target ≤ Word.addClamped q.used l'.reserve ↔
      l.target.toNat ≤ p.used.toNat + l.overhead.toNat := by
    rw [reserve_reached_iff, hl.reserve_eq, ← hl.target_eq, ← hl.overhead_eq, h.used]
  unfold Follows
  by_cases hfull : l.target.toNat ≤ p.used.toNat + l.overhead.toNat
  · obtain ⟨full, hclose⟩ := hp.makeRoom_settle_of_full hne hfull
    have hsettle : q.settle l' = q.close false := if_pos (hreached.2 hfull)
    rw [hclose, hsettle]
    exact h.close full false
  · have hopen := hp.makeRoom_settle_of_room hne hl.reserve_le (Nat.lt_of_not_le hfull)
    have hsettle : q.settle l' = q := if_neg (mt hreached.1 hfull)
    rw [hopen, hsettle]
    exact h

theorem follows_round (hl : l.Defers l') (hp : p.Sound l) (hq : q.Sound l')
    (h : Follows l p q) (tag : ℕ) (size offset : UInt64) (hr : remaining ≠ 0) :
    Follows l (p.round l tag size offset remaining) (q.round l' tag size offset remaining) := by
  have hshare := hl.share_eq hq h remaining
  have hview : id (p.nextChunk l tag size offset remaining) =
      (q.nextChunk l' tag size offset remaining).withMargin l.margin := by
    simp [nextChunk, Chunk.withMargin, hshare, hl.overhead_eq]
  have htotal : (p.nextChunk l tag size offset remaining).totalLength =
      (q.nextChunk l' tag size offset remaining).totalLength := by
    simp [nextChunk, Chunk.totalLength, hshare, hl.overhead_eq]
  have hput := h.put hview htotal
  rw [Packer.round, Packer.round, hl.makeRoom_eq_self hq]
  exact hl.follows_settle (hp.put_nextChunk tag size offset hr) (chunks_put_ne _ _) hput

theorem follows_cut (hl : l.Defers l') (hp : p.Sound l) :
    ∀ q : Packer, q.Sound l' → Follows l p q →
      Follows l (p.cut l tag size offset remaining) (q.cut l' tag size offset remaining) := by
  induction offset, remaining, p using cut.induct l tag size with
  | case1 offset p =>
      intro q _ h
      rw [cut_zero, cut_zero]
      exact h
  | case2 offset remaining p hr roomy n ih =>
      intro q hq h
      have hround := hl.follows_round hp hq h tag size offset hr
      rw [cut_eq_round l tag size offset p hr, cut_eq_round l' tag size offset q hr,
        ← hl.share_eq hq h]
      exact ih (hp.round hr) _ (hq.round hr) hround

theorem follows_addAll (hl : l.Defers l') (hp : p.Sound l) (hq : q.Sound l')
    (h : Follows l p q) (tag : ℕ) (sizes : List UInt64) :
    Follows l (p.addAll l tag sizes) (q.addAll l' tag sizes) := by
  induction sizes generalizing tag p q with
  | nil => exact h
  | cons size rest ih =>
      exact ih (hp.cut tag size 0 size) (hq.cut tag size 0 size) (hl.follows_cut hp q hq h)
        (tag + 1)

/-- Both packers end with the same groups, apart from the margin. -/
theorem groups_addAll (hl : l.Defers l') (sizes : List UInt64) :
    (empty.addAll l 0 sizes).groups =
      (empty.addAll l' 0 sizes).groups.map (Group.withMargin l.margin) := by
  have hp := sound_empty l
  have hq := sound_empty l'
  have hstart : Follows l empty empty := by
    unfold Follows
    rw [makeRoom_of_used_eq_zero l rfl]
    exact ⟨rfl, rfl, rfl⟩
  have hsame := (hl.follows_addAll hp hq hstart 0 sizes).groups
  rw [(hp.addAll 0 sizes).groups_makeRoom] at hsame
  exact eq_map_of_map_chunks hsame

end Limits.Defers

/-- A read with a margin of at most the overhead and a write pack requests into the same groups,
except that the chunks of the read have the margin and those of the write have none. -/
theorem pack_read_eq_pack_write (sizes : List UInt64) {target overhead margin : UInt64}
    (hmargin : margin ≤ overhead) (hoverhead : overhead < target) :
    ∃ reading writing, pack .read sizes ⟨target, overhead, margin⟩ = .ok reading ∧
      pack .write sizes ⟨target, overhead, 0⟩ = .ok writing ∧
      (∀ g ∈ writing.groups, ∀ c ∈ g.chunks, c.margin = 0) ∧
      reading.groups = writing.groups.map (Group.withMargin margin) := by
  have hread : (⟨target, overhead, margin⟩ : Budget).Accepted .read :=
    ⟨hoverhead, fun _ => UInt64.lt_of_le_of_lt hmargin hoverhead⟩
  have hwrite : (⟨target, overhead, 0⟩ : Budget).Accepted .write := ⟨hoverhead, by simp⟩
  have hpack := pack_of_accepted hwrite sizes
  refine ⟨_, _, pack_of_accepted hread sizes, hpack, ?_, ?_⟩
  · intro g hg c hc
    exact (marks_of_pack hpack hg hc).2.2
  · have hdefers := Budget.limits_defers hread hwrite rfl rfl hmargin
    exact hdefers.groups_addAll sizes

/-- A first request that leaves five bytes of its group, more than the margin of the read and fewer
than the overhead. -/
theorem pack_read_eq_pack_write_open :
    (2 : UInt64) ≤ 10 ∧ (10 : UInt64) < 100 ∧
      ∃ reading writing, pack .read [85, 5, 80, 5] ⟨100, 10, 2⟩ = .ok reading ∧
        pack .write [85, 5, 80, 5] ⟨100, 10, 0⟩ = .ok writing ∧
        (∀ g ∈ writing.groups, ∀ c ∈ g.chunks, c.margin = 0) ∧
        reading.groups = writing.groups.map (Group.withMargin 2) :=
  ⟨by decide, by decide, pack_read_eq_pack_write [85, 5, 80, 5] (by decide) (by decide)⟩

end S7Request
