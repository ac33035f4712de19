import S7Request.Proofs.Packing.Partition
import S7Request.Proofs.Packing.Unbounded
import Mathlib.Algebra.Order.BigOperators.Group.List
import Mathlib.Algebra.Order.Group.Nat

/-!
# Packing without overflow

The packer once more, with every sum and difference absent when a word cannot hold it. Cutting a
request is then a run of rounds that ends when nothing remains, and a round exists only if all its
arithmetic does. The packer has such a run over any requests, and its groups are those of packing in
unbounded numbers.
-/
namespace S7Request

open Piece

namespace Word

/-- The difference of two 64-bit words, absent when the second is the larger. -/
def sub64? (a b : UInt64) : Option UInt64 :=
  if b ≤ a then some (a - b) else none

theorem sub64?_of_le {a b : UInt64} (h : b.toNat ≤ a.toNat) : sub64? a b = some (a - b) :=
  if_pos (UInt64.le_iff_toNat_le.2 h)

theorem add64?_of_lt {a b : UInt64} (h : a.toNat + b.toNat < UInt64.size) :
    add64? a b = some (a + b) :=
  if_pos h

end Word

namespace Packer

/-- A packer in the middle of a request: how much of it is cut off and how much remains. -/
structure Cutting where
  offset : UInt64
  remaining : UInt64
  packer : Packer

def makeRoom? (l : Limits) (p : Packer) : Option Packer := do
  let free ← Word.sub64? l.target p.used
  pure (if free ≤ l.overhead then p.close true else p)

def share? (l : Limits) (p : Packer) (remaining : UInt64) : Option UInt64 := do
  let free ← Word.sub64? l.target p.used
  let room ← Word.sub64? free l.overhead
  pure (if remaining ≤ room then remaining else room)

def put? (c : Chunk) (p : Packer) : Option Packer := do
  let total ← Word.add64? c.chunkSize c.overheadSize
  let used ← Word.add64? p.used total
  pure { p with chunks := p.chunks.push c, used }

/-- One round of cutting, absent when one of its sums or differences does not fit into a word. -/
def round? (l : Limits) (tag : ℕ) (size : UInt64) (s : Cutting) : Option Cutting := do
  let roomy ← s.packer.makeRoom? l
  let n ← roomy.share? l s.remaining
  let filled ← roomy.put? ⟨tag, size, s.offset, n, l.overhead, l.margin⟩
  let remaining ← Word.sub64? s.remaining n
  let offset ← Word.add64? s.offset n
  pure ⟨offset, remaining, filled.settle l⟩

/-- Rounds cut a request until nothing of it remains. -/
inductive Cuts (l : Limits) (tag : ℕ) (size : UInt64) : Cutting → Packer → Prop
  | done (offset : UInt64) (p : Packer) : Cuts l tag size ⟨offset, 0, p⟩ p
  | round {s s' : Cutting} {q : Packer} :
      s.remaining ≠ 0 → round? l tag size s = some s' → Cuts l tag size s' q → Cuts l tag size s q

/-- Requests are cut one after the other; the first of them has the given index. -/
inductive Runs (l : Limits) : ℕ → List UInt64 → Packer → Packer → Prop
  | done (tag : ℕ) (p : Packer) : Runs l tag [] p p
  | request {tag : ℕ} {size : UInt64} {rest : List UInt64} {p q r : Packer} :
      Cuts l tag size ⟨0, size, p⟩ q → Runs l (tag + 1) rest q r → Runs l tag (size :: rest) p r

variable {l : Limits} {p : Packer} {tag : ℕ} {size offset remaining : UInt64}

theorem Sound.sub64?_used (h : p.Sound l) :
    Word.sub64? l.target p.used = some (l.target - p.used) := by
  have := h.reserve_free
  exact Word.sub64?_of_le (by omega)

theorem Sound.makeRoom?_eq (h : p.Sound l) : p.makeRoom? l = some (p.makeRoom l) := by
  rw [makeRoom?, h.sub64?_used]
  rfl

theorem Sound.share?_eq (h : p.Sound l) (remaining : UInt64) :
    (p.makeRoom l).share? l remaining = some ((p.makeRoom l).share l remaining) := by
  have hroom := UInt64.lt_iff_toNat_lt.1 (overhead_lt_makeRoom l p)
  rw [share?, h.makeRoom.sub64?_used, Option.bind_eq_bind, Option.bind_some,
    Word.sub64?_of_le (Nat.le_of_lt hroom)]
  rfl

theorem Sound.put?_eq (h : p.Sound l) (tag : ℕ) (size offset remaining : UInt64) :
    (p.makeRoom l).put? (p.nextChunk l tag size offset remaining) =
      some ((p.makeRoom l).put (p.nextChunk l tag size offset remaining)) := by
  have hlt := l.target.toNat_lt
  have hfits := h.share_fits remaining
  have htotal : ((p.makeRoom l).share l remaining + l.overhead).toNat =
      ((p.makeRoom l).share l remaining).toNat + l.overhead.toNat := by
    rw [UInt64.toNat_add, Nat.mod_eq_of_lt (by omega)]
  rw [put?, nextChunk, Word.add64?_of_lt (by simp only [UInt64.size]; omega), Option.bind_eq_bind,
    Option.bind_some, Word.add64?_of_lt (by rw [htotal]; simp only [UInt64.size]; omega)]
  rfl

/-- A round computes what it computes on words that wrap. -/
theorem Sound.round?_eq (h : p.Sound l) (tag : ℕ)
    (hsize : offset.toNat + remaining.toNat = size.toNat) :
    round? l tag size ⟨offset, remaining, p⟩ =
      some ⟨offset + (p.makeRoom l).share l remaining,
        remaining - (p.makeRoom l).share l remaining, p.round l tag size offset remaining⟩ := by
  have hlt := size.toNat_lt
  have hle := toNat_share_le l p remaining
  have hput := h.put?_eq tag size offset remaining
  rw [nextChunk] at hput
  simp only [round?, h.makeRoom?_eq, h.share?_eq, hput, Option.bind_eq_bind, Option.bind_some]
  rw [Word.sub64?_of_le hle, Option.bind_some,
    Word.add64?_of_lt (by simp only [UInt64.size]; omega)]
  rfl

theorem Sound.cuts (h : p.Sound l) (tag : ℕ)
    (hsize : offset.toNat + remaining.toNat = size.toNat) :
    Cuts l tag size ⟨offset, remaining, p⟩ (p.cut l tag size offset remaining) := by
  induction offset, remaining, p using cut.induct l tag size with
  | case1 offset p =>
      rw [cut_zero]
      exact .done offset p
  | case2 offset remaining p hr roomy n ih =>
      rw [cut_eq_round l tag size offset p hr]
      exact .round hr (h.round?_eq tag hsize)
        (ih (h.round hr) (toNat_offset_add_remaining l p hsize))

theorem Sound.runs (h : p.Sound l) (tag : ℕ) (sizes : List UInt64) :
    Runs l tag sizes p (p.addAll l tag sizes) := by
  induction sizes generalizing tag p with
  | nil => exact .done tag p
  | cons size rest ih =>
      exact .request (h.cuts tag (by simp)) (ih (h.cut tag size 0 size) (tag + 1))

end Packer

/-- A sum of words is the sum of their numbers when a word can hold it. -/
theorem toNat_foldr_add (f : Chunk → UInt64) {cs : List Chunk}
    (h : (cs.map fun c => (f c).toNat).sum < UInt64.size) :
    (cs.foldr (fun c n => f c + n) 0).toNat = (cs.map fun c => (f c).toNat).sum := by
  induction cs with
  | nil => rfl
  | cons c cs ih =>
      rw [List.map_cons, List.sum_cons] at h
      rw [List.foldr_cons, UInt64.toNat_add, ih (by omega), List.map_cons, List.sum_cons]
      exact Nat.mod_eq_of_lt h

namespace Group

variable {g : Group}

theorem toNat_payloadLength
    (h : (g.chunks.map fun c => c.chunkSize.toNat + c.overheadSize.toNat).sum < UInt64.size) :
    g.payloadLength.toNat = (g.chunks.map fun c => c.chunkSize.toNat).sum := by
  refine toNat_foldr_add Chunk.chunkSize (Nat.lt_of_le_of_lt ?_ h)
  exact List.sum_le_sum fun c _ => Nat.le_add_right _ _

theorem toNat_totalLength
    (h : (g.chunks.map fun c => c.chunkSize.toNat + c.overheadSize.toNat).sum < UInt64.size) :
    g.totalLength.toNat =
      (g.chunks.map fun c => c.chunkSize.toNat + c.overheadSize.toNat).sum := by
  have htotal : ∀ c ∈ g.chunks,
      c.totalLength.toNat = c.chunkSize.toNat + c.overheadSize.toNat := fun c hc =>
    Chunk.toNat_totalLength h (List.single_le_sum (by simp) _ (List.mem_map_of_mem hc))
  have hmap := List.map_congr_left htotal
  rw [totalLength, toNat_foldr_add Chunk.totalLength (by rwa [hmap]), hmap]

end Group

variable {d : Direction} {b : Budget} {sizes : List UInt64} {packing : Packing}

theorem toUnbounded_limits (h : b.Accepted d) :
    (b.limits d h).toUnbounded =
      .of d b.target.toNat b.overhead.toNat b.margin.toNat (UInt64.lt_iff_toNat_lt.1 h.1) := by
  cases d <;> rfl

/-- Packing on 64-bit words under an accepted budget gives the groups of packing in unbounded
numbers. Every request is cut to its end, no sum and no difference on the way wraps, and the lengths
of a group are the sums over its chunks. -/
theorem pack_exact (d : Direction) (sizes : List UInt64) (b : Budget) (h : b.Accepted d) :
    ∃ packing, pack d sizes b = .ok packing ∧
      packing.groups.map Group.toUnbounded =
        Unbounded.pack
          (.of d b.target.toNat b.overhead.toNat b.margin.toNat (UInt64.lt_iff_toNat_lt.1 h.1))
          (sizes.map (·.toNat)) ∧
      Packer.Runs (b.limits d h) 0 sizes .empty packing.packer ∧
      ∀ g ∈ packing.groups,
        g.totalLength.toNat =
            (g.chunks.map fun c => c.chunkSize.toNat + c.overheadSize.toNat).sum ∧
          g.payloadLength.toNat = (g.chunks.map fun c => c.chunkSize.toNat).sum := by
  have hpack := pack_of_accepted h sizes
  have hsound := Packer.sound_empty (b.limits d h)
  refine ⟨_, hpack, ?_, hsound.runs 0 sizes, fun g hg => ?_⟩
  · rw [Packing.groups, Packer.toUnbounded_groups, hsound.toUnbounded_addAll, toUnbounded_limits]
    rfl
  · have hlt : (g.chunks.map fun c => c.chunkSize.toNat + c.overheadSize.toNat).sum <
        UInt64.size := by
      rw [sum_totals_eq_load fun c hc => (marks_of_pack hpack hg hc).2.1]
      exact Nat.lt_of_le_of_lt (admits_of_pack hpack hg).load_le b.target.toNat_lt
    exact ⟨g.toNat_totalLength hlt, g.toNat_payloadLength hlt⟩

/-- The largest target and the largest request, which leaves room for one more byte in its second
group. -/
theorem pack_exact_largest :
    (⟨0xffffffffffffffff, 5, 0⟩ : Budget).Accepted .write ∧
      ∃ packing, pack .write [0xffffffffffffffff, 1] ⟨0xffffffffffffffff, 5, 0⟩ = .ok packing ∧
        packing.groups.map Group.toUnbounded =
          Unbounded.pack (.of .write 0xffffffffffffffff 5 0 (by decide)) [0xffffffffffffffff, 1] ∧
        Packer.Runs (Budget.limits .write ⟨0xffffffffffffffff, 5, 0⟩ (by decide)) 0
          [0xffffffffffffffff, 1] .empty packing.packer ∧
        ∀ g ∈ packing.groups,
          g.totalLength.toNat =
              (g.chunks.map fun c => c.chunkSize.toNat + c.overheadSize.toNat).sum ∧
            g.payloadLength.toNat = (g.chunks.map fun c => c.chunkSize.toNat).sum :=
  ⟨by decide, pack_exact .write [0xffffffffffffffff, 1] ⟨0xffffffffffffffff, 5, 0⟩ (by decide)⟩

example :
    (Unbounded.pack (.of .write 226 5 0 (by decide)) [1, 50, 65, 200, 322, 99, 500, 44]).map
        (·.map (·.chunkSize)) =
      [[1, 50, 65, 90], [110, 106], [216], [99, 117], [221], [162, 44]] := by
  cbv

end S7Request
