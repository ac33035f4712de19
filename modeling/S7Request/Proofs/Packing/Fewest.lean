import S7Request.Proofs.Packing.Partition
import S7Request.Proofs.Packing.Reach

/-!
# Packing uses the fewest groups

The packer closes a group only when nothing more goes into it, so each of its groups takes all it
can from what the groups before it have left. No packing of the same requests in order, cut wherever
it likes, then has fewer groups.
-/
namespace S7Request

open Piece

namespace Packer

variable {l : Limits} {sizes rest : List ℕ} {p : Packer}

/-- The closed groups take all they can from the requests, and the open one will end where a group
that takes all it can ends, when the requests in `rest` are still to be packed. -/
def Greedy (l : Limits) (sizes rest : List ℕ) (p : Packer) : Prop :=
  ∃ left,
    Fills l.target.toNat l.overhead.toNat l.reserve.toNat sizes
      (p.closed.toList.map (·.group.pieces)) left ∧
    skip (payload p.opened.pieces) left = skip 0 rest ∧
    reach l.target.toNat l.overhead.toNat l.reserve.toNat 0 left =
      payload p.opened.pieces +
        reach l.target.toNat l.overhead.toNat l.reserve.toNat p.used.toNat rest

theorem greedy_empty (l : Limits) (sizes : List ℕ) : empty.Greedy l (skip 0 sizes) sizes := by
  refine ⟨skip 0 sizes, ?_, ?_, ?_⟩
  · exact (skip_skip 0 0 sizes).symm
  · exact skip_skip 0 0 sizes
  · rw [reach_skip_zero]
    exact (Nat.zero_add _).symm

theorem greedy_zero_cons : p.Greedy l sizes (0 :: rest) ↔ p.Greedy l sizes rest := by
  simp [Greedy]

theorem payload_opened_pos (h : p.Filled l) (hne : p.chunks ≠ #[]) :
    0 < payload p.opened.pieces := by
  have hadmit := h.admits p.opened (by simp [groups_of_ne hne])
  exact payload_pos hadmit.ne_nil hadmit.length_pos

/-- A group may be closed once nothing more goes into it. -/
theorem Greedy.close (h : p.Greedy l sizes rest) (hf : p.Filled l) (hne : p.chunks ≠ #[])
    (hfull : l.target.toNat ≤ p.used.toNat + max l.overhead.toNat l.reserve.toNat) (full : Bool) :
    (p.close full).Greedy l sizes rest := by
  obtain ⟨left, hfills, hleft, hreach⟩ := h
  rw [reach_of_closed hfull, Nat.add_zero] at hreach
  have hclosed : (p.close full).closed.toList.map (·.group.pieces) =
      p.closed.toList.map (·.group.pieces) ++ [p.opened.pieces] := by simp [Packer.close, opened]
  have hopened : (p.close full).opened.pieces = [] := rfl
  refine ⟨skip (payload p.opened.pieces) left, ?_, ?_, ?_⟩
  · rw [hclosed]
    exact hfills.concat (payload_opened_pos hf hne) hreach.symm
  · rw [hopened, payload_nil, hleft, skip_skip]
  · rw [hopened, payload_nil, Nat.zero_add, hleft, reach_skip_zero]
    rfl

theorem Greedy.makeRoom (h : p.Greedy l sizes rest) (hs : p.Sound l) :
    (p.makeRoom l).Greedy l sizes rest := by
  unfold Packer.makeRoom
  split
  · rename_i hfull
    refine h.close hs.toFilled (hs.ne_of_full hfull) ?_ true
    rw [hs.full_iff] at hfull
    omega
  · exact h

theorem Greedy.settle (h : p.Greedy l sizes rest) (hf : p.Filled l) (hne : p.chunks ≠ #[]) :
    (p.settle l).Greedy l sizes rest := by
  unfold Packer.settle
  split
  · rename_i hfull
    refine h.close hf hne ?_ false
    rw [reserve_reached_iff] at hfull
    omega
  · exact h

/-- A chunk takes from its request all that fits. -/
theorem Greedy.put_nextChunk {tag : ℕ} {size offset remaining : UInt64}
    (h : p.Greedy l sizes (remaining.toNat :: rest)) (hs : p.Sound l) (hr : remaining ≠ 0) :
    ((p.makeRoom l).put (p.nextChunk l tag size offset remaining)).Greedy l sizes
      ((remaining - (p.makeRoom l).share l remaining).toNat :: rest) := by
  obtain ⟨left, hfills, hleft, hreach⟩ := h.makeRoom hs
  have hfree := hs.makeRoom.reserve_free
  have hroom := hs.room
  have hshare := hs.toNat_share remaining
  have hpos : remaining.toNat ≠ 0 := fun e => hr (UInt64.toNat_inj.1 e)
  have hused := (hs.put_nextChunk tag size offset hr).used_eq
  rw [pieces_opened_put, load_append, ← hs.makeRoom.used_eq] at hused
  rw [reach_cons (by omega) (by omega) hshare] at hreach
  rw [toNat_sub_share]
  refine ⟨left, hfills, ?_, ?_⟩
  · rw [pieces_opened_put, payload_append, ← skip_skip, hleft, skip_skip, Nat.zero_add]
    exact skip_of_le rest (by simp only [nextChunk, Chunk.piece, payload_cons, payload_nil]; omega)
  · rw [hused, hreach, pieces_opened_put]
    simp only [nextChunk, Chunk.piece, payload_append, payload_cons, payload_nil, load_cons,
      load_nil, Nat.add_zero, Nat.add_assoc]

theorem Greedy.round {tag : ℕ} {size offset remaining : UInt64}
    (h : p.Greedy l sizes (remaining.toNat :: rest)) (hs : p.Sound l) (hr : remaining ≠ 0) :
    (p.round l tag size offset remaining).Greedy l sizes
      ((remaining - (p.makeRoom l).share l remaining).toNat :: rest) :=
  (h.put_nextChunk hs hr).settle (hs.put_nextChunk tag size offset hr) (chunks_put_ne _ _)

theorem Greedy.cut {size : UInt64} (h : p.Greedy l sizes (size.toNat :: rest)) (hs : p.Sound l)
    (tag : ℕ) : (p.cut l tag size 0 size).Greedy l sizes rest := by
  obtain ⟨_, -, hcut⟩ := cut_induction l tag size 0 size
    (I := fun _ remaining q => q.Sound l ∧ q.Greedy l sizes (remaining.toNat :: rest))
    (fun _ _ _ hr hq => ⟨hq.1.round hr, hq.2.round hq.1 hr⟩) ⟨hs, h⟩
  exact greedy_zero_cons.1 hcut

theorem Greedy.addAll {requests : List UInt64} (h : p.Greedy l sizes (requests.map (·.toNat)))
    (hs : p.Sound l) (tag : ℕ) : (p.addAll l tag requests).Greedy l sizes [] := by
  induction requests generalizing tag p with
  | nil => exact h
  | cons size rest ih => exact ih (Greedy.cut h hs tag) (hs.cut tag size 0 size) (tag + 1)

/-- When all is packed, every group takes all it can from what the groups before it have left. -/
theorem Greedy.fills_groups (h : p.Greedy l sizes []) (hf : p.Filled l) :
    ∃ left, Fills l.target.toNat l.overhead.toNat l.reserve.toNat sizes
      (p.groups.map Group.pieces) left := by
  obtain ⟨left, hfills, -, hreach⟩ := h
  by_cases hne : p.chunks = #[]
  · exact ⟨left, by simpa [groups, hne, Function.comp_def] using hfills⟩
  · refine ⟨skip (payload p.opened.pieces) left, ?_⟩
    rw [groups_of_ne hne, List.map_append, List.map_map, List.map_singleton]
    exact hfills.concat (payload_opened_pos hf hne) (by simpa using hreach.symm)

end Packer

/-- A packing that keeps the order of the requests, however it cuts them: no group is empty, the
pieces of all groups in order make up the requests, every group stays within the target when each
piece costs the overhead, and in a read a piece that is not the first of its group begins only while
the margin is free. -/
structure Orderly (d : Direction) (b : Budget) (sizes : List UInt64) (groups : List (List Piece)) :
    Prop where
  ne_nil : ∀ g ∈ groups, g ≠ []
  cover : Cover 0 (sizes.map (·.toNat)) groups.flatten
  load_le : ∀ g ∈ groups, load b.overhead.toNat g ≤ b.target.toNat
  margin_free : d = .read → ∀ g ∈ groups, ∀ before p after, g = before ++ p :: after →
    before ≠ [] → load b.overhead.toNat before + b.margin.toNat < b.target.toNat

variable {d : Direction} {b : Budget} {sizes : List UInt64} {packing : Packing}

theorem orderly_of_pack (h : pack d sizes b = .ok packing) :
    Orderly d b sizes (packing.groups.map Group.pieces) where
  ne_nil := by
    simp only [List.mem_map, forall_exists_index, and_imp, forall_apply_eq_imp_iff₂]
    exact fun g hg => (admits_of_pack h hg).ne_nil
  cover := by
    rw [← List.flatMap_def]
    exact cover_of_pack h
  load_le := by
    simp only [List.mem_map, forall_exists_index, and_imp, forall_apply_eq_imp_iff₂]
    exact fun g hg => (admits_of_pack h hg).load_le
  margin_free hd := by
    simp only [List.mem_map, forall_exists_index, and_imp, forall_apply_eq_imp_iff₂]
    intro g hg before p after he hne
    have := (admits_of_pack h hg).reserve_free before p after he hne
    rwa [if_pos hd] at this

/-- In any orderly packing a piece begins only while the overhead and the reserve are free: the
first of a group because the budget is accepted, any other because it has payload and because of
the margin. -/
theorem Orderly.reserve_free {groups : List (List Piece)} (h : Orderly d b sizes groups)
    (hb : b.Accepted d) {g : List Piece} (hg : g ∈ groups) {before after : List Piece} {p : Piece}
    (he : g = before ++ p :: after) :
    load b.overhead.toNat before + max b.overhead.toNat
      (if d = .read then b.margin else b.overhead).toNat < b.target.toNat := by
  have hoverhead := UInt64.lt_iff_toNat_lt.1 hb.1
  have hload := h.load_le g hg
  have hpos : 0 < p.length :=
    h.cover.length_pos (List.mem_flatten.2 ⟨g, hg, by simp [he]⟩)
  rw [he, load_append, load_cons] at hload
  have hfits : load b.overhead.toNat before + b.overhead.toNat < b.target.toNat := by omega
  cases d with
  | write => simpa using hfits
  | read =>
      have hmargin : load b.overhead.toNat before + b.margin.toNat < b.target.toNat := by
        by_cases hne : before = []
        · have := UInt64.lt_iff_toNat_lt.1 (hb.2 rfl)
          simpa [hne] using this
        · exact h.margin_free rfl g hg before p after he hne
      simp only [if_true]
      omega

theorem length_groups_le (h : pack d sizes b = .ok packing) {groups : List (List Piece)}
    (hg : Orderly d b sizes groups) : packing.groups.length ≤ groups.length := by
  obtain ⟨hb, rfl⟩ := pack_eq_ok_iff.1 h
  have hsound := Packer.sound_empty (b.limits d hb)
  have hgreedy := (Packer.greedy_empty (b.limits d hb) (sizes.map (·.toNat))).addAll hsound 0
  obtain ⟨left, hfills⟩ := hgreedy.fills_groups (hsound.addAll 0 sizes).toFilled
  rw [Budget.limits_target, Budget.limits_overhead, Budget.limits_reserve] at hfills
  have hle := hfills.length_le 0 hg.cover.cuts hg.load_le fun g hmem before p after he =>
    hg.reserve_free hb hmem he
  rwa [List.length_map] at hle

/-- Packing under an accepted budget is orderly and uses the fewest groups: no orderly packing of
the same requests has fewer. -/
theorem pack_fewest (d : Direction) (sizes : List UInt64) (b : Budget) (h : b.Accepted d) :
    ∃ packing, pack d sizes b = .ok packing ∧
      Orderly d b sizes (packing.groups.map Group.pieces) ∧
      ∀ groups, Orderly d b sizes groups → packing.groups.length ≤ groups.length := by
  have hpack := pack_of_accepted h sizes
  exact ⟨_, hpack, orderly_of_pack hpack, fun groups hg => length_groups_le hpack hg⟩

/-- Reading these requests takes three groups, however they are cut. -/
theorem pack_fewest_three :
    (⟨226, 5, 12⟩ : Budget).Accepted .read ∧
      ∃ packing, pack .read [1, 9, 102, 33, 2, 4, 8, 326] ⟨226, 5, 12⟩ = .ok packing ∧
        Orderly .read ⟨226, 5, 12⟩ [1, 9, 102, 33, 2, 4, 8, 326]
          (packing.groups.map Group.pieces) ∧
        ∀ groups, Orderly .read ⟨226, 5, 12⟩ [1, 9, 102, 33, 2, 4, 8, 326] groups →
          3 ≤ groups.length := by
  have h : (⟨226, 5, 12⟩ : Budget).Accepted .read := by decide
  obtain ⟨packing, hpack, horderly, hfewest⟩ :=
    pack_fewest .read [1, 9, 102, 33, 2, 4, 8, 326] ⟨226, 5, 12⟩ h
  have hthree : (pack .read [1, 9, 102, 33, 2, 4, 8, 326] ⟨226, 5, 12⟩).map (·.groups.length) =
      .ok 3 := by cbv
  rw [hpack] at hthree
  refine ⟨h, packing, hpack, horderly, fun groups hg => ?_⟩
  rw [← Except.ok.inj hthree]
  exact hfewest groups hg

end S7Request
