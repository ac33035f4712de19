import S7Request.Proofs.Packing.Capacity

/-!
# Packing in unbounded numbers

The packing algorithm on natural numbers: sums are compared with the target as they stand, and a
chunk is cut to what the target leaves where the rest of its request would exceed it. The packer on
machine words agrees with it step by step, for between two rounds the used bytes and the reserve
stay below the target and nothing has to be reduced.
-/
namespace S7Request

namespace Unbounded

/-- The sizes between which a group is filled. -/
structure Limits where
  target : ℕ
  overhead : ℕ
  margin : ℕ
  reserve : ℕ
  overhead_lt_target : overhead < target

/-- A group of a write keeps room for the overhead of one more chunk, a group of a read its margin.
The chunks of a write have no margin. -/
def Limits.of (d : Direction) (target overhead margin : ℕ) (h : overhead < target) : Limits :=
  match d with
  | .read => ⟨target, overhead, margin, margin, h⟩
  | .write => ⟨target, overhead, 0, overhead, h⟩

structure Chunk where
  tagIndex : ℕ
  requestSize : ℕ
  offset : ℕ
  chunkSize : ℕ
  overheadSize : ℕ
  margin : ℕ
  deriving DecidableEq, Repr

/-- The groups closed so far, and the chunks of the open one and the sum of what they take up. -/
structure Packer where
  closed : List (List Chunk)
  chunks : List Chunk
  used : ℕ
  deriving DecidableEq, Repr

namespace Packer

def empty : Packer :=
  ⟨[], [], 0⟩

def close (p : Packer) : Packer :=
  ⟨p.closed ++ [p.chunks], [], 0⟩

/-- A group that cannot take one byte of payload is closed first. -/
def makeRoom (l : Limits) (p : Packer) : Packer :=
  if l.target ≤ p.used + l.overhead then p.close else p

/-- The rest of a request, cut to what the target leaves where it would exceed it. -/
def share (l : Limits) (p : Packer) (remaining : ℕ) : ℕ :=
  if l.target < p.used + remaining + l.overhead then l.target - p.used - l.overhead else remaining

def put (c : Chunk) (p : Packer) : Packer :=
  { p with chunks := p.chunks ++ [c], used := p.used + (c.chunkSize + c.overheadSize) }

/-- A group whose reserve is reached is closed. -/
def settle (l : Limits) (p : Packer) : Packer :=
  if l.target ≤ p.used + l.reserve then p.close else p

theorem share_pos (l : Limits) (p : Packer) {remaining : ℕ} (h : remaining ≠ 0) :
    0 < (p.makeRoom l).share l remaining := by
  have hroom : (p.makeRoom l).used + l.overhead < l.target := by
    unfold makeRoom
    split
    · simpa [close] using l.overhead_lt_target
    · omega
  unfold share
  split <;> omega

/-- Packs what remains of a request, beginning at an offset. -/
def cut (l : Limits) (tagIndex size offset remaining : ℕ) (p : Packer) : Packer :=
  if remaining = 0 then p
  else
    let roomy := p.makeRoom l
    let n := roomy.share l remaining
    cut l tagIndex size (offset + n) (remaining - n)
      ((roomy.put ⟨tagIndex, size, offset, n, l.overhead, l.margin⟩).settle l)
termination_by remaining
decreasing_by
  have := share_pos l p ‹remaining ≠ 0›
  omega

/-- Packs requests one after the other; the first of them has the given index. -/
def addAll (l : Limits) : ℕ → List ℕ → Packer → Packer
  | _, [], p => p
  | tagIndex, size :: rest, p => addAll l (tagIndex + 1) rest (p.cut l tagIndex size 0 size)

/-- The groups in order; the last one is closed if it holds a chunk. -/
def groups (p : Packer) : List (List Chunk) :=
  p.closed ++ if p.chunks = [] then [] else [p.chunks]

end Packer

def pack (l : Limits) (sizes : List ℕ) : List (List Chunk) :=
  (Packer.empty.addAll l 0 sizes).groups

end Unbounded

def Limits.toUnbounded (l : Limits) : Unbounded.Limits where
  target := l.target.toNat
  overhead := l.overhead.toNat
  margin := l.margin.toNat
  reserve := l.reserve.toNat
  overhead_lt_target := UInt64.lt_iff_toNat_lt.1 l.overhead_lt_target

def Chunk.toUnbounded (c : Chunk) : Unbounded.Chunk where
  tagIndex := c.tagIndex
  requestSize := c.requestSize.toNat
  offset := c.offset.toNat
  chunkSize := c.chunkSize.toNat
  overheadSize := c.overheadSize.toNat
  margin := c.margin.toNat

def Group.toUnbounded (g : Group) : List Unbounded.Chunk :=
  g.chunks.map Chunk.toUnbounded

namespace Packer

def toUnbounded (p : Packer) : Unbounded.Packer where
  closed := p.closed.toList.map (·.group.toUnbounded)
  chunks := p.chunks.toList.map Chunk.toUnbounded
  used := p.used.toNat

variable {l : Limits} {p : Packer} {tag : ℕ} {size offset remaining : UInt64}

theorem toUnbounded_close (full : Bool) (p : Packer) :
    (p.close full).toUnbounded = p.toUnbounded.close := by
  simp [close, Unbounded.Packer.close, toUnbounded, Group.toUnbounded]

/-- Comparing what the target leaves with the overhead is comparing the sum with the target, for
what is used does not exceed the target. -/
theorem Sound.toUnbounded_makeRoom (h : p.Sound l) :
    (p.makeRoom l).toUnbounded = p.toUnbounded.makeRoom l.toUnbounded := by
  unfold Packer.makeRoom
  split
  · rename_i hfull
    exact (toUnbounded_close true p).trans (if_pos (h.full_iff.1 hfull)).symm
  · rename_i hroom
    exact (if_neg (mt h.full_iff.2 hroom)).symm

theorem Sound.toUnbounded_share (h : p.Sound l) (remaining : UInt64) :
    ((p.makeRoom l).share l remaining).toNat =
      (p.toUnbounded.makeRoom l.toUnbounded).share l.toUnbounded remaining.toNat := by
  have hroom := h.room
  rw [h.toNat_share, ← h.toUnbounded_makeRoom]
  unfold Unbounded.Packer.share
  split <;> simp only [Limits.toUnbounded, toUnbounded] at * <;> omega

theorem toUnbounded_settle (l : Limits) (p : Packer) :
    (p.settle l).toUnbounded = p.toUnbounded.settle l.toUnbounded := by
  unfold settle
  split
  · rename_i hreached
    exact (toUnbounded_close false p).trans (if_pos ((reserve_reached_iff l p).1 hreached)).symm
  · rename_i hfree
    exact (if_neg (mt (reserve_reached_iff l p).2 hfree)).symm

theorem Sound.toUnbounded_nextChunk (h : p.Sound l) (tag : ℕ) (size offset remaining : UInt64) :
    (p.nextChunk l tag size offset remaining).toUnbounded =
      ⟨tag, size.toNat, offset.toNat,
        (p.toUnbounded.makeRoom l.toUnbounded).share l.toUnbounded remaining.toNat,
        l.toUnbounded.overhead, l.toUnbounded.margin⟩ := by
  rw [← h.toUnbounded_share]
  rfl

theorem Sound.toUnbounded_put (h : p.Sound l) (tag : ℕ) (size offset : UInt64)
    (hr : remaining ≠ 0) :
    ((p.makeRoom l).put (p.nextChunk l tag size offset remaining)).toUnbounded =
      (p.toUnbounded.makeRoom l.toUnbounded).put
        (p.nextChunk l tag size offset remaining).toUnbounded := by
  rw [← h.toUnbounded_makeRoom, toUnbounded, h.toNat_used_put tag size offset hr]
  simp [Packer.put, Unbounded.Packer.put, toUnbounded, nextChunk, Chunk.toUnbounded]

theorem Sound.toUnbounded_round (h : p.Sound l) (tag : ℕ) (size offset : UInt64)
    (hr : remaining ≠ 0) :
    (p.round l tag size offset remaining).toUnbounded =
      ((p.toUnbounded.makeRoom l.toUnbounded).put
        ⟨tag, size.toNat, offset.toNat,
          (p.toUnbounded.makeRoom l.toUnbounded).share l.toUnbounded remaining.toNat,
          l.toUnbounded.overhead, l.toUnbounded.margin⟩).settle l.toUnbounded := by
  rw [Packer.round, toUnbounded_settle, h.toUnbounded_put tag size offset hr,
    h.toUnbounded_nextChunk]

/-- Cutting a request on words and in unbounded numbers gives the same packer. -/
theorem Sound.toUnbounded_cut (h : p.Sound l) (tag : ℕ)
    (hsize : offset.toNat + remaining.toNat = size.toNat) :
    (p.cut l tag size offset remaining).toUnbounded =
      p.toUnbounded.cut l.toUnbounded tag size.toNat offset.toNat remaining.toNat := by
  induction offset, remaining, p using cut.induct l tag size with
  | case1 offset p =>
      rw [cut_zero, Unbounded.Packer.cut]
      rfl
  | case2 offset remaining p hr roomy n ih =>
      have hne : remaining.toNat ≠ 0 := fun e => hr (UInt64.toNat_inj.1 e)
      have hadd : (offset + n).toNat = offset.toNat + n.toNat := toNat_add_share l p hsize
      have hsub : (remaining - n).toNat = remaining.toNat - n.toNat := toNat_sub_share l p remaining
      have hn : n.toNat = _ := h.toUnbounded_share remaining
      rw [cut_eq_round l tag size offset p hr, Unbounded.Packer.cut, if_neg hne]
      refine (ih (h.round hr) (toNat_offset_add_remaining l p hsize)).trans ?_
      rw [hadd, hsub, hn]
      exact congrArg _ (h.toUnbounded_round tag size offset hr)

theorem Sound.toUnbounded_addAll (h : p.Sound l) (tag : ℕ) (sizes : List UInt64) :
    (p.addAll l tag sizes).toUnbounded =
      p.toUnbounded.addAll l.toUnbounded tag (sizes.map (·.toNat)) := by
  induction sizes generalizing tag p with
  | nil => rfl
  | cons size rest ih =>
      rw [Packer.addAll, ih (h.cut tag size 0 size), h.toUnbounded_cut tag (by simp)]
      rfl

theorem toUnbounded_groups (p : Packer) :
    p.groups.map Group.toUnbounded = p.toUnbounded.groups := by
  by_cases h : p.chunks = #[]
  · simp [groups, Unbounded.Packer.groups, toUnbounded, h]
  · simp [groups, Unbounded.Packer.groups, toUnbounded, h, Group.toUnbounded]

end Packer

end S7Request
