import S7Request.Budget
import S7Request.Packing.Group

/-!
# Packing

Requests are packed in order into groups of limited size. The open group takes as much of the next
request as fits; what is left opens another group. A group is closed once its reserve is reached,
or, when the reserve is smaller than the overhead of a chunk, as soon as it cannot take one more
byte of payload. A packing remembers how each of its groups was closed and how full it was.
-/
namespace S7Request

/-- The sizes between which a group is filled. There is room for payload in an empty group, and its
reserve is not reached. -/
structure Limits where
  target : UInt64
  overhead : UInt64
  /-- The margin that is written into every chunk. -/
  margin : UInt64
  /-- A group is closed when fewer bytes than its reserve are left. -/
  reserve : UInt64
  overhead_lt_target : overhead < target
  reserve_lt_target : reserve < target

/-- The limits of an accepted budget. The reserve of a write is the overhead of one more chunk,
that of a read is its margin. -/
def Budget.limits (d : Direction) (b : Budget) (h : b.Accepted d) : Limits :=
  match d with
  | .read => ⟨b.target, b.overhead, b.margin, b.margin, h.1, h.2 rfl⟩
  | .write => ⟨b.target, b.overhead, 0, b.overhead, h.1, h.1⟩

/-- A closed group, how full it was, and whether it was closed because no byte of payload would
have fitted. -/
structure ClosedGroup where
  group : Group
  used : UInt64
  full : Bool
  deriving DecidableEq, Repr

/-- The groups closed so far, and the chunks and the fill of the open one. -/
structure Packer where
  closed : Array ClosedGroup
  chunks : Array Chunk
  used : UInt64
  deriving DecidableEq, Repr

namespace Packer

def empty : Packer :=
  ⟨#[], #[], 0⟩

def close (full : Bool) (p : Packer) : Packer :=
  ⟨p.closed.push ⟨⟨p.chunks.toList⟩, p.used, full⟩, #[], 0⟩

/-- Closes the open group if it cannot take one more byte of payload. -/
def makeRoom (l : Limits) (p : Packer) : Packer :=
  if l.target - p.used ≤ l.overhead then p.close true else p

def put (c : Chunk) (p : Packer) : Packer :=
  { p with chunks := p.chunks.push c, used := p.used + c.totalLength }

/-- Closes the open group if its reserve is reached. -/
def settle (l : Limits) (p : Packer) : Packer :=
  if l.target ≤ Word.addClamped p.used l.reserve then p.close false else p

/-- How much of a remaining request fits into the open group. -/
def share (l : Limits) (p : Packer) (remaining : UInt64) : UInt64 :=
  let room := l.target - p.used - l.overhead
  if remaining ≤ room then remaining else room

/-- After making room there is place for payload. -/
theorem overhead_lt_makeRoom (l : Limits) (p : Packer) :
    l.overhead < l.target - (p.makeRoom l).used := by
  unfold makeRoom
  split
  · simpa [close] using l.overhead_lt_target
  · rename_i h
    exact UInt64.not_le.1 h

theorem toNat_room (l : Limits) (p : Packer) :
    (l.target - (p.makeRoom l).used - l.overhead).toNat =
      (l.target - (p.makeRoom l).used).toNat - l.overhead.toNat :=
  UInt64.toNat_sub_of_le _ _ (UInt64.le_of_lt (overhead_lt_makeRoom l p))

/-- The share of a request is the smaller of the request and the room in the group. -/
theorem toNat_share (l : Limits) (p : Packer) (remaining : UInt64) :
    ((p.makeRoom l).share l remaining).toNat =
      min remaining.toNat ((l.target - (p.makeRoom l).used).toNat - l.overhead.toNat) := by
  rw [← toNat_room, share]
  split <;> rename_i h <;> rw [UInt64.le_iff_toNat_le] at h <;> omega

/-- The share of a request that is not empty is not empty. -/
theorem share_pos (l : Limits) (p : Packer) {remaining : UInt64} (h : remaining ≠ 0) :
    0 < ((p.makeRoom l).share l remaining).toNat := by
  have room := UInt64.lt_iff_toNat_lt.1 (overhead_lt_makeRoom l p)
  have hn : remaining.toNat ≠ 0 := fun e => h (UInt64.toNat_inj.1 e)
  rw [toNat_share]
  omega

theorem toNat_sub_share (l : Limits) (p : Packer) (remaining : UInt64) :
    (remaining - (p.makeRoom l).share l remaining).toNat =
      remaining.toNat - ((p.makeRoom l).share l remaining).toNat := by
  refine UInt64.toNat_sub_of_le _ _ (UInt64.le_iff_toNat_le.2 ?_)
  rw [toNat_share]
  omega

/-- Packs what remains of a request, beginning at an offset. -/
def cut (l : Limits) (tagIndex : Nat) (size offset remaining : UInt64) (p : Packer) : Packer :=
  if remaining = 0 then p
  else
    let roomy := p.makeRoom l
    let n := roomy.share l remaining
    cut l tagIndex size (offset + n) (remaining - n)
      ((roomy.put ⟨tagIndex, size, offset, n, l.overhead, l.margin⟩).settle l)
termination_by remaining.toNat
decreasing_by
  have hr : remaining ≠ 0 := ‹¬remaining = 0›
  have hn : remaining.toNat ≠ 0 := fun e => hr (UInt64.toNat_inj.1 e)
  have := share_pos l p hr
  rw [toNat_sub_share]
  omega

/-- Packs requests one after the other; the first of them has the given index. -/
def addAll (l : Limits) : Nat → List UInt64 → Packer → Packer
  | _, [], p => p
  | tagIndex, size :: rest, p => addAll l (tagIndex + 1) rest (p.cut l tagIndex size 0 size)

/-- The groups in order; an open group counts when it holds a chunk. -/
def groups (p : Packer) : List Group :=
  p.closed.toList.map (·.group) ++ (if p.chunks.isEmpty then [] else [⟨p.chunks.toList⟩])

end Packer

/-- Packed requests: how many there were, the limits, and what the packer left. -/
structure Packing where
  direction : Direction
  limits : Limits
  tags : Nat
  packer : Packer

namespace Packing

def groups (p : Packing) : List Group :=
  p.packer.groups

def chunkCount (p : Packing) : Nat :=
  p.groups.foldr (fun g n => g.chunks.length + n) 0

/-- The event of closing the group at an index. -/
def closingEvent (index : Nat) (c : ClosedGroup) : Event :=
  if c.full then .closingFullGroup index c.used else .closingGroup index c.used

/-- The events of a packing: each group that was closed before the requests ended, then the
sum. -/
def events (p : Packing) : List Event :=
  p.packer.closed.toList.mapIdx closingEvent ++
    [.packed p.direction p.tags p.groups.length p.chunkCount p.limits.target p.limits.overhead
      p.limits.reserve]

end Packing

/-- The packing of requests within limits. -/
def Packing.within (d : Direction) (l : Limits) (sizes : List UInt64) : Packing :=
  ⟨d, l, sizes.length, Packer.empty.addAll l 0 sizes⟩

/-- Packs requests of a read, whose reserve is the margin. -/
def packForRead (sizes : List UInt64) (target overhead margin : UInt64) : Except Error Packing :=
  if h : target ≤ overhead ∨ target ≤ margin then .error (.budgetTooSmall target overhead margin)
  else
    .ok (.within .read ⟨target, overhead, margin, margin, UInt64.not_le.1 (not_or.1 h).1,
      UInt64.not_le.1 (not_or.1 h).2⟩ sizes)

/-- Packs requests of a write, which has no margin and the overhead of one more chunk as its
reserve. -/
def packForWrite (sizes : List UInt64) (target overhead : UInt64) : Except Error Packing :=
  if h : target ≤ overhead then .error (.budgetTooSmall target overhead 0)
  else
    .ok (.within .write ⟨target, overhead, 0, overhead, UInt64.not_le.1 h, UInt64.not_le.1 h⟩ sizes)

def pack (d : Direction) (sizes : List UInt64) (b : Budget) : Except Error Packing :=
  match d with
  | .read => packForRead sizes b.target b.overhead b.margin
  | .write => packForWrite sizes b.target b.overhead

end S7Request
