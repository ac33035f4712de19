import S7Request.Proofs.Packing.Alike
import S7Request.Proofs.Packing.Partition
import Mathlib.Data.List.Basic

/-!
# Requests without content

A request of size zero takes no round of the packer, wherever it stands: it neither makes room nor
puts a chunk nor settles. So requests pack as those of them pack that have content. Only the indexes
differ, for a request with content is counted among all requests or among those like it.
-/
namespace S7Request

/-- The sizes of the requests that have content. -/
def contents (sizes : List UInt64) : List UInt64 :=
  sizes.filter (· ≠ 0)

/-- The index among all requests of the one that is at an index among those with content. -/
def indexOfContent (sizes : List UInt64) (k : ℕ) : ℕ :=
  (sizes.findIdxs (· ≠ 0))[k]?.getD sizes.length

def Chunk.renumber (index : ℕ → ℕ) (c : Chunk) : Chunk :=
  { c with tagIndex := index c.tagIndex }

def Group.renumber (index : ℕ → ℕ) (g : Group) : Group :=
  ⟨g.chunks.map (Chunk.renumber index)⟩

namespace Packer

variable {l : Limits} {p q : Packer} {index : ℕ → ℕ}

/-- Requests of size zero may be left out when the others are renumbered. -/
theorem alike_contents (tag tag' : ℕ) (sizes : List UInt64)
    (hindex : ∀ k i, (sizes.findIdxs (· ≠ 0) tag)[k]? = some i → index (tag' + k) = i)
    (h : p.Alike id (Chunk.renumber index) q) :
    (p.addAll l tag sizes).Alike id (Chunk.renumber index)
      (q.addAll l tag' (contents sizes)) := by
  induction sizes generalizing tag tag' p q with
  | nil => exact h
  | cons size rest ih =>
      by_cases hzero : size = 0
      · subst hzero
        rw [addAll, cut_zero]
        exact ih (tag + 1) tag' (by simpa [List.findIdxs_cons] using hindex) h
      · simp only [List.findIdxs_cons, hzero, ne_eq, not_false_eq_true, decide_true,
          if_true] at hindex
        have hhead : index tag' = tag := hindex 0 tag rfl
        have hcut : (p.cut l tag size 0 size).Alike id (Chunk.renumber index)
            (q.cut l tag' size 0 size) := by
          refine alike_cut (fun offset n => ?_) 0 size p q h
          simp [Chunk.renumber, hhead]
        have hkeep : contents (size :: rest) = size :: contents rest := by
          simp [contents, hzero]
        rw [hkeep, addAll, addAll]
        refine ih (tag + 1) (tag' + 1) (fun k i hi => ?_) hcut
        rw [Nat.add_right_comm]
        exact hindex (k + 1) i hi

end Packer

/-- Requests pack under an accepted budget as those of them pack that have content, each taken for
the request that it is among all. The groups are the same and so are those of them that were closed
before the requests ended. -/
theorem pack_contents (d : Direction) (sizes : List UInt64) (b : Budget) (h : b.Accepted d) :
    ∃ packing compact, pack d sizes b = .ok packing ∧ pack d (contents sizes) b = .ok compact ∧
      packing.groups = compact.groups.map (Group.renumber (indexOfContent sizes)) ∧
      packing.packer.closed.toList.map (·.group) =
        (compact.packer.closed.toList.map (·.group)).map
          (Group.renumber (indexOfContent sizes)) := by
  refine ⟨_, _, pack_of_accepted h sizes, pack_of_accepted h (contents sizes), ?_⟩
  have halike : (Packer.empty.addAll (b.limits d h) 0 sizes).Alike id
      (Chunk.renumber (indexOfContent sizes))
      (Packer.empty.addAll (b.limits d h) 0 (contents sizes)) := by
    refine Packer.alike_contents 0 0 sizes (fun k i hi => ?_) ⟨rfl, rfl, rfl⟩
    rw [Nat.zero_add, indexOfContent, hi, Option.getD_some]
  constructor
  · exact Packer.eq_map_of_map_chunks halike.groups
  · apply Packer.eq_map_of_map_chunks
    rw [List.map_map, List.map_map]
    exact halike.closed

/-- Zeros first and last, after a group that has no room for another chunk, and inside a group. -/
theorem pack_contents_everywhere :
    (⟨100, 10, 2⟩ : Budget).Accepted .read ∧
      ∃ packing compact, pack .read [0, 85, 0, 5, 0, 0, 80, 0, 5, 0] ⟨100, 10, 2⟩ = .ok packing ∧
        pack .read [85, 5, 80, 5] ⟨100, 10, 2⟩ = .ok compact ∧
        packing.groups.map (fun g => g.chunks.map (·.tagIndex)) = [[1], [3, 6], [6, 8]] ∧
        packing.groups = compact.groups.map (Group.renumber fun k => [1, 3, 6, 8][k]?.getD 10) ∧
        packing.packer.closed.toList.map (·.group) =
          (compact.packer.closed.toList.map (·.group)).map
            (Group.renumber fun k => [1, 3, 6, 8][k]?.getD 10) := by
  have h : (⟨100, 10, 2⟩ : Budget).Accepted .read := by decide
  have hplaces : indexOfContent [0, 85, 0, 5, 0, 0, 80, 0, 5, 0] =
      fun k => [1, 3, 6, 8][k]?.getD 10 := rfl
  have htags : (pack .read [0, 85, 0, 5, 0, 0, 80, 0, 5, 0] ⟨100, 10, 2⟩).map
      (fun p => p.groups.map fun g => g.chunks.map (·.tagIndex)) =
      .ok [[1], [3, 6], [6, 8]] := by cbv
  obtain ⟨packing, compact, hpack, hcompact, hgroups, hclosed⟩ :=
    pack_contents .read [0, 85, 0, 5, 0, 0, 80, 0, 5, 0] ⟨100, 10, 2⟩ h
  rw [hplaces] at hgroups hclosed
  rw [hpack] at htags
  exact ⟨h, packing, compact, hpack, hcompact, Except.ok.inj htags, hgroups, hclosed⟩

end S7Request
