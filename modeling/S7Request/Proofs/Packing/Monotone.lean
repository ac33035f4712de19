import S7Request.Proofs.Packing.Fewest
import Mathlib.Data.List.Forall2

/-!
# Smaller requests and roomier budgets

From an orderly packing of larger requests the ends of the requests may be taken away: the pieces
behind the new ends go, the one across an end is shortened, and groups without pieces are left out.
What remains is an orderly packing of the smaller requests, under any budget that leaves at least as
much room. Since packing uses the fewest groups, smaller requests and roomier budgets never take
more of them.
-/
namespace S7Request

open Piece

namespace Piece

variable {size : ℕ → ℕ}

/-- What is left of a piece when every request ends at a given size. -/
def trim? (size : ℕ → ℕ) (p : Piece) : Option Piece :=
  if p.offset < size p.tag then some { p with length := min p.length (size p.tag - p.offset) }
  else none

theorem trim?_of_le {p : Piece} (h : size p.tag ≤ p.offset) : p.trim? size = none :=
  if_neg (Nat.not_lt.2 h)

theorem trim?_of_lt {p : Piece} (h : p.offset < size p.tag) :
    p.trim? size = some { p with length := min p.length (size p.tag - p.offset) } :=
  if_pos h

/-- Trimmed pieces take up no more. -/
theorem load_trim_le {overhead overhead' : ℕ} (h : overhead ≤ overhead') (ps : List Piece) :
    load overhead (ps.filterMap (trim? size)) ≤ load overhead' ps := by
  induction ps with
  | nil => exact Nat.le_refl 0
  | cons p ps ih =>
      rw [load_cons]
      by_cases hp : p.offset < size p.tag
      · rw [List.filterMap_cons_some (trim?_of_lt hp), load_cons]
        have hlength := Nat.min_le_left p.length (size p.tag - p.offset)
        dsimp only
        omega
      · rw [List.filterMap_cons_none (trim?_of_le (Nat.not_lt.1 hp))]
        omega

end Piece

variable {size : ℕ → ℕ} {tag start stop : ℕ} {ps : List Piece}

/-- Nothing is left of the pieces behind the end. -/
theorem Tile.trim_eq_nil (h : Tile tag start ps stop) (hsize : size tag ≤ start) :
    ps.filterMap (trim? size) = [] := by
  induction ps generalizing start with
  | nil => rfl
  | cons p ps ih =>
      obtain ⟨rfl, rfl, -, hrest⟩ := h
      rw [List.filterMap_cons_none (trim?_of_le hsize)]
      exact ih hrest (by omega)

/-- The trimmed pieces of a request make it up to its new end. -/
theorem Tile.trim (h : Tile tag start ps stop) (hstart : start ≤ size tag)
    (hstop : size tag ≤ stop) : Tile tag start (ps.filterMap (trim? size)) (size tag) := by
  induction ps generalizing start with
  | nil =>
      obtain rfl : start = stop := h
      exact Nat.le_antisymm hstart hstop
  | cons p ps ih =>
      by_cases hend : size tag ≤ start
      · rw [h.trim_eq_nil hend]
        exact Nat.le_antisymm hstart hend
      · obtain ⟨rfl, rfl, hpos, hrest⟩ := h
        rw [List.filterMap_cons_some (trim?_of_lt (Nat.lt_of_not_le hend))]
        refine ⟨rfl, rfl, by dsimp only; omega, ?_⟩
        dsimp only
        by_cases hcut : p.offset + p.length ≤ size p.tag
        · rw [Nat.min_eq_left (by omega)]
          exact ih hrest hcut
        · -- The end is inside this piece, so nothing of the others is left.
          rw [hrest.trim_eq_nil (by omega)]
          change p.offset + min p.length (size p.tag - p.offset) = size p.tag
          omega

/-- The trimmed pieces of larger requests make up the smaller ones. -/
theorem Cover.trim {sizes sizes' : List ℕ} (h : Cover tag sizes' ps)
    (hle : List.Forall₂ (· ≤ ·) sizes sizes')
    (hsize : ∀ k n, sizes[k]? = some n → size (tag + k) = n) :
    Cover tag sizes (ps.filterMap (trim? size)) := by
  induction hle generalizing tag ps with
  | nil =>
      rw [show ps = [] from h]
      rfl
  | @cons n n' sizes sizes' hhead _ ih =>
      obtain ⟨own, later, rfl, htile, hcover⟩ := h
      have hn : size tag = n := hsize 0 n rfl
      refine ⟨own.filterMap (trim? size), later.filterMap (trim? size),
        List.filterMap_append, ?_, ?_⟩
      · rw [← hn] at hhead ⊢
        exact htile.trim (Nat.zero_le _) hhead
      · refine ih hcover fun k m hm => ?_
        rw [Nat.add_right_comm]
        exact hsize (k + 1) m hm

/-- A budget that leaves at least as much room as another one. The margin matters in a read only. -/
structure Budget.Roomier (d : Direction) (b b' : Budget) : Prop where
  target_le : b'.target ≤ b.target
  overhead_le : b.overhead ≤ b'.overhead
  margin_le : d = .read → b.margin ≤ b'.margin

theorem Budget.Roomier.accepted {d : Direction} {b b' : Budget} (h : b.Roomier d b')
    (hb : b'.Accepted d) : b.Accepted d := by
  constructor
  · exact UInt64.lt_of_le_of_lt h.overhead_le (UInt64.lt_of_lt_of_le hb.1 h.target_le)
  · intro hd
    exact UInt64.lt_of_le_of_lt (h.margin_le hd) (UInt64.lt_of_lt_of_le (hb.2 hd) h.target_le)

/-- The groups without what is behind the ends of the requests. -/
def trimmed (size : ℕ → ℕ) (groups : List (List Piece)) : List (List Piece) :=
  (groups.map (List.filterMap (trim? size))).filter (· ≠ [])

theorem length_trimmed_le (size : ℕ → ℕ) (groups : List (List Piece)) :
    (trimmed size groups).length ≤ groups.length :=
  calc
    (trimmed size groups).length ≤ (groups.map (List.filterMap (trim? size))).length :=
      List.length_filter_le _ _
    _ = groups.length := List.length_map _

theorem exists_of_mem_trimmed {groups : List (List Piece)} {g : List Piece}
    (h : g ∈ trimmed size groups) :
    g ≠ [] ∧ ∃ g' ∈ groups, g = g'.filterMap (trim? size) := by
  obtain ⟨hmem, hne⟩ := List.mem_filter.1 h
  obtain ⟨g', hg', rfl⟩ := List.mem_map.1 hmem
  exact ⟨of_decide_eq_true hne, g', hg', rfl⟩

/-- Trimming an orderly packing of larger requests gives an orderly packing of smaller ones, under
any roomier budget. -/
theorem Orderly.trimmed {d : Direction} {b b' : Budget} {sizes sizes' : List UInt64}
    {groups : List (List Piece)} (h : Orderly d b' sizes' groups) (hb : b.Roomier d b')
    (hle : List.Forall₂ (· ≤ ·) sizes sizes')
    (hsize : ∀ k n, (sizes.map (·.toNat))[k]? = some n → size k = n) :
    Orderly d b sizes (S7Request.trimmed size groups) where
  ne_nil g hg := (exists_of_mem_trimmed hg).1
  cover := by
    have hsizes : List.Forall₂ (· ≤ ·) (sizes.map (·.toNat)) (sizes'.map (·.toNat)) := by
      rw [List.forall₂_map_left_iff, List.forall₂_map_right_iff]
      exact hle.imp fun _ _ => UInt64.le_iff_toNat_le.1
    rw [S7Request.trimmed, List.flatten_filter_ne_nil, ← List.filterMap_flatten]
    exact h.cover.trim hsizes fun k n hn => by rw [Nat.zero_add, hsize k n hn]
  load_le g hg := by
    obtain ⟨-, g', hg', rfl⟩ := exists_of_mem_trimmed hg
    calc
      load b.overhead.toNat (g'.filterMap (trim? size))
        ≤ load b'.overhead.toNat g' := load_trim_le (UInt64.le_iff_toNat_le.1 hb.overhead_le) g'
      _ ≤ b'.target.toNat := h.load_le g' hg'
      _ ≤ b.target.toNat := UInt64.le_iff_toNat_le.1 hb.target_le
  margin_free hd g hg before p after he hne := by
    obtain ⟨-, g', hg', rfl⟩ := exists_of_mem_trimmed hg
    -- The trimmed piece comes from one before which the group held no less.
    obtain ⟨front, back, rfl, rfl, hback⟩ := List.filterMap_eq_append_iff.1 he
    obtain ⟨gone, p', rest, rfl, hgone, -, -⟩ := List.filterMap_eq_cons_iff.1 hback
    have hfront : front ≠ [] := by
      rintro rfl
      exact hne rfl
    have hfree := h.margin_free hd _ hg' (front ++ gone) p' rest (by simp) (by simp [hfront])
    have hload : load b.overhead.toNat (front.filterMap (trim? size)) ≤
        load b'.overhead.toNat front :=
      load_trim_le (UInt64.le_iff_toNat_le.1 hb.overhead_le) front
    have hmargin := UInt64.le_iff_toNat_le.1 (hb.margin_le hd)
    have htarget := UInt64.le_iff_toNat_le.1 hb.target_le
    rw [load_append] at hfree
    omega

/-- Smaller requests under a roomier budget do not take more groups. -/
theorem length_groups_le_of_roomier {d : Direction} {b b' : Budget} {sizes sizes' : List UInt64}
    {packing' : Packing} (hle : List.Forall₂ (· ≤ ·) sizes sizes') (hb : b.Roomier d b')
    (h : pack d sizes' b' = .ok packing') :
    ∃ packing, pack d sizes b = .ok packing ∧
      packing.groups.length ≤ packing'.groups.length := by
  obtain ⟨hb', -⟩ := pack_eq_ok_iff.1 h
  have hpack := pack_of_accepted (hb.accepted hb') sizes
  refine ⟨_, hpack, ?_⟩
  let size : ℕ → ℕ := fun k => (sizes.map (·.toNat))[k]?.getD 0
  have hsize : ∀ k n, (sizes.map (·.toNat))[k]? = some n → size k = n := by
    intro k n hn
    simp only [size, hn, Option.getD_some]
  have hlength := length_groups_le hpack ((orderly_of_pack h).trimmed hb hle hsize)
  have htrimmed := length_trimmed_le size (packing'.groups.map Group.pieces)
  rw [List.length_map] at htrimmed
  exact Nat.le_trans hlength htrimmed

end S7Request
