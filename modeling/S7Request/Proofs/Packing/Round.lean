import S7Request.Packing.Pack
import S7Request.Proofs.Packing.Tiling

/-!
# Rounds of the packer

Cutting a request is a sequence of rounds: each makes room, puts one chunk and settles. An invariant
of the packer is shown for one round and carried through a whole request by `cut_induction`. The
first invariant is what the packer has placed: closing a group moves chunks but loses none, so the
placed chunks grow by exactly the pieces of one request after the other.
-/
namespace S7Request.Packer

open Piece

/-- The chunk that a round cuts off the rest of a request. -/
def nextChunk (l : Limits) (tag : ℕ) (size offset remaining : UInt64) (p : Packer) : Chunk :=
  ⟨tag, size, offset, (p.makeRoom l).share l remaining, l.overhead, l.margin⟩

def round (l : Limits) (tag : ℕ) (size offset remaining : UInt64) (p : Packer) : Packer :=
  ((p.makeRoom l).put (p.nextChunk l tag size offset remaining)).settle l

@[simp] theorem cut_zero (l : Limits) (tag : ℕ) (size offset : UInt64) (p : Packer) :
    p.cut l tag size offset 0 = p := by rw [cut, if_pos rfl]

theorem cut_eq_round (l : Limits) (tag : ℕ) (size offset : UInt64) {remaining : UInt64} (p : Packer)
    (h : remaining ≠ 0) :
    p.cut l tag size offset remaining =
      (p.round l tag size offset remaining).cut l tag size
        (offset + (p.makeRoom l).share l remaining)
        (remaining - (p.makeRoom l).share l remaining) := by
  rw [cut, if_neg h]
  rfl

/-- Requests may be packed in two parts. -/
theorem addAll_append (l : Limits) (tag : ℕ) (xs ys : List UInt64) (p : Packer) :
    p.addAll l tag (xs ++ ys) = (p.addAll l tag xs).addAll l (tag + xs.length) ys := by
  induction xs generalizing tag p with
  | nil => rfl
  | cons x xs ih =>
      rw [List.cons_append, addAll, ih, addAll, List.length_cons, Nat.add_right_comm, Nat.add_assoc]

/-- What every round preserves holds after the whole request is cut. -/
theorem cut_induction (l : Limits) (tag : ℕ) (size offset remaining : UInt64)
    {I : UInt64 → UInt64 → Packer → Prop}
    (step : ∀ offset remaining p, remaining ≠ 0 → I offset remaining p →
      I (offset + (p.makeRoom l).share l remaining)
        (remaining - (p.makeRoom l).share l remaining) (p.round l tag size offset remaining))
    {p : Packer} (h : I offset remaining p) :
    ∃ stop, I stop 0 (p.cut l tag size offset remaining) := by
  induction offset, remaining, p using cut.induct l tag size with
  | case1 offset p => exact ⟨offset, by simpa using h⟩
  | case2 offset remaining p hr roomy n ih =>
      rw [cut_eq_round l tag size offset p hr]
      exact ih (step offset remaining p hr h)

/-- The chunks placed so far, in order. -/
def placed (p : Packer) : List Chunk :=
  p.closed.toList.flatMap (·.group.chunks) ++ p.chunks.toList

theorem flatMap_groups (p : Packer) : p.groups.flatMap (·.chunks) = p.placed := by
  by_cases h : p.chunks = #[]
  · simp [groups, placed, h, List.flatMap_map]
  · simp [groups, placed, h, List.flatMap_map]

@[simp] theorem placed_empty : empty.placed = [] := rfl

@[simp] theorem placed_close (full : Bool) (p : Packer) : (p.close full).placed = p.placed := by
  simp [close, placed]

@[simp] theorem placed_makeRoom (l : Limits) (p : Packer) : (p.makeRoom l).placed = p.placed := by
  unfold makeRoom
  split <;> simp

@[simp] theorem placed_put (c : Chunk) (p : Packer) : (p.put c).placed = p.placed ++ [c] := by
  simp [put, placed]

@[simp] theorem placed_settle (l : Limits) (p : Packer) : (p.settle l).placed = p.placed := by
  unfold settle
  split <;> simp

@[simp] theorem placed_round (l : Limits) (tag : ℕ) (size offset remaining : UInt64) (p : Packer) :
    (p.round l tag size offset remaining).placed =
      p.placed ++ [p.nextChunk l tag size offset remaining] := by simp [round]

theorem toNat_share_le (l : Limits) (p : Packer) (remaining : UInt64) :
    ((p.makeRoom l).share l remaining).toNat ≤ remaining.toNat := by
  rw [toNat_share]
  exact Nat.min_le_left _ _

/-- The offset of the next chunk does not wrap, for a request ends within its size. -/
theorem toNat_add_share (l : Limits) (p : Packer) {size offset remaining : UInt64}
    (h : offset.toNat + remaining.toNat = size.toNat) :
    (offset + (p.makeRoom l).share l remaining).toNat =
      offset.toNat + ((p.makeRoom l).share l remaining).toNat := by
  have hlt := size.toNat_lt
  have hle := toNat_share_le l p remaining
  rw [UInt64.toNat_add, Nat.mod_eq_of_lt (by omega)]

/-- What is cut off and what remains make up the request after a round, too. -/
theorem toNat_offset_add_remaining (l : Limits) (p : Packer) {size offset remaining : UInt64}
    (h : offset.toNat + remaining.toNat = size.toNat) :
    (offset + (p.makeRoom l).share l remaining).toNat +
      (remaining - (p.makeRoom l).share l remaining).toNat = size.toNat := by
  have hle := toNat_share_le l p remaining
  rw [toNat_add_share l p h, toNat_sub_share]
  omega

/-- What every round preserves holds after all requests are packed. -/
theorem addAll_induction (l : Limits) {I : Packer → Prop}
    (step : ∀ tag size offset remaining p, remaining ≠ 0 →
      offset.toNat + remaining.toNat = size.toNat → I p → I (p.round l tag size offset remaining))
    (tag : ℕ) (sizes : List UInt64) {p : Packer} (h : I p) : I (p.addAll l tag sizes) := by
  induction sizes generalizing tag p with
  | nil => exact h
  | cons size rest ih =>
      obtain ⟨_, -, hcut⟩ := cut_induction l tag size 0 size
        (I := fun offset remaining q => offset.toNat + remaining.toNat = size.toNat ∧ I q)
        (fun offset remaining q hr hq => ⟨toNat_offset_add_remaining l q hq.1,
          step tag size offset remaining q hr hq.1 hq.2⟩) ⟨by simp, h⟩
      exact ih (tag + 1) hcut

/-- Cutting what remains of a request places pieces that make up exactly that, marked with the size
of the request and with the limits. -/
theorem placed_cut (l : Limits) (tag : ℕ) (size offset remaining : UInt64) (p : Packer)
    (h : offset.toNat + remaining.toNat = size.toNat) :
    ∃ own, (p.cut l tag size offset remaining).placed = p.placed ++ own ∧
      Tile tag offset.toNat (own.map Chunk.piece) size.toNat ∧
      ∀ c ∈ own, c.requestSize = size ∧ c.overheadSize = l.overhead ∧ c.margin = l.margin := by
  induction offset, remaining, p using cut.induct l tag size with
  | case1 offset p => exact ⟨[], by simp, by simpa [Tile] using h, by simp⟩
  | case2 offset remaining p hr roomy n ih =>
      have hpos : 0 < n.toNat := share_pos l p hr
      have hadd : (offset + n).toNat = offset.toNat + n.toNat := toNat_add_share l p h
      obtain ⟨own, hplaced, htile, hmarks⟩ := ih (toNat_offset_add_remaining l p h)
      refine ⟨p.nextChunk l tag size offset remaining :: own, ?_, ⟨rfl, rfl, hpos, ?_⟩, ?_⟩
      · rw [cut_eq_round l tag size offset p hr]
        exact hplaced.trans (by simp [roomy, n, nextChunk])
      · rwa [hadd] at htile
      · intro c hc
        rcases List.mem_cons.1 hc with rfl | hc
        · exact ⟨rfl, rfl, rfl⟩
        · exact hmarks c hc

/-- Packing requests places pieces that make up the requests, each marked with its request's
size. -/
theorem placed_addAll (l : Limits) (tag : ℕ) (sizes : List UInt64) (p : Packer) :
    ∃ new, (p.addAll l tag sizes).placed = p.placed ++ new ∧
      Cover tag (sizes.map (·.toNat)) (new.map Chunk.piece) ∧
      ∀ c ∈ new, tag ≤ c.tagIndex ∧ sizes[c.tagIndex - tag]? = some c.requestSize ∧
        c.overheadSize = l.overhead ∧ c.margin = l.margin := by
  induction sizes generalizing tag p with
  | nil => exact ⟨[], by simp [addAll], by simp [Cover], by simp⟩
  | cons size rest ih =>
      obtain ⟨own, hown, htile, hmarks⟩ := placed_cut l tag size 0 size p (by simp)
      obtain ⟨later, hlater, hcover, hrest⟩ := ih (tag + 1) (p.cut l tag size 0 size)
      refine ⟨own ++ later, ?_, ⟨_, _, List.map_append, htile, hcover⟩, ?_⟩
      · rw [addAll, hlater, hown, List.append_assoc]
      · intro c hc
        rcases List.mem_append.1 hc with hc | hc
        · have htag : c.tagIndex = tag := (htile.of_mem (List.mem_map_of_mem hc)).1
          obtain ⟨hsize, hoverhead, hmargin⟩ := hmarks c hc
          exact ⟨Nat.le_of_eq htag.symm, by simp [htag, hsize], hoverhead, hmargin⟩
        · obtain ⟨htag, hsize, hoverhead, hmargin⟩ := hrest c hc
          refine ⟨by omega, ?_, hoverhead, hmargin⟩
          rw [show c.tagIndex - tag = c.tagIndex - (tag + 1) + 1 by omega]
          exact hsize

end S7Request.Packer
