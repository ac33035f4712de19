import S7Request.Packing.Group
import Mathlib.Algebra.BigOperators.Group.List.Basic
import Mathlib.Algebra.GroupWithZero.Nat

/-!
# Tilings

A packing is judged by the pieces of the requests that it carries, with lengths as plain numbers.
`Tile` says that pieces make up one request between two offsets, `Cover` that they make up a list of
requests one after the other. Both ask for the pieces in order, without gap, overlap or empty piece.
-/
namespace S7Request

/-- `length` bytes of the request at the index `tag`, from an offset on. -/
structure Piece where
  tag : ℕ
  offset : ℕ
  length : ℕ
  deriving DecidableEq, Repr

def Chunk.piece (c : Chunk) : Piece :=
  ⟨c.tagIndex, c.offset.toNat, c.chunkSize.toNat⟩

def Group.pieces (g : Group) : List Piece :=
  g.chunks.map Chunk.piece

namespace Piece

def payload (ps : List Piece) : ℕ :=
  (ps.map length).sum

/-- What pieces take up in a telegram when each of them costs a fixed overhead. -/
def load (overhead : ℕ) (ps : List Piece) : ℕ :=
  (ps.map (·.length + overhead)).sum

@[simp] theorem payload_nil : payload [] = 0 := rfl

@[simp] theorem payload_cons (p : Piece) (ps : List Piece) :
    payload (p :: ps) = p.length + payload ps := rfl

@[simp] theorem payload_append (ps qs : List Piece) :
    payload (ps ++ qs) = payload ps + payload qs := by simp [payload]

@[simp] theorem load_nil (overhead : ℕ) : load overhead [] = 0 := rfl

@[simp] theorem load_cons (overhead : ℕ) (p : Piece) (ps : List Piece) :
    load overhead (p :: ps) = p.length + overhead + load overhead ps := rfl

@[simp] theorem load_append (overhead : ℕ) (ps qs : List Piece) :
    load overhead (ps ++ qs) = load overhead ps + load overhead qs := by simp [load]

theorem mul_length_le_load (overhead : ℕ) {ps : List Piece} (h : ∀ p ∈ ps, 0 < p.length) :
    (overhead + 1) * ps.length ≤ load overhead ps := by
  induction ps with
  | nil => simp
  | cons p ps ih =>
      have hp := h p (by simp)
      have hps := ih fun q hq => h q (by simp [hq])
      rw [load_cons, List.length_cons, Nat.mul_succ]
      omega

theorem payload_pos {ps : List Piece} (hne : ps ≠ []) (hpos : ∀ p ∈ ps, 0 < p.length) :
    0 < payload ps := by
  cases ps with
  | nil => contradiction
  | cons p ps =>
      have := hpos p (by simp)
      simp only [payload_cons]
      omega

/-- The first piece is of an earlier request than the second one, or ends before this begins. -/
def Before (p q : Piece) : Prop :=
  p.tag < q.tag ∨ p.tag = q.tag ∧ p.offset + p.length ≤ q.offset

end Piece

open Piece

/-- The pieces make up the request at the index `tag` from one offset to another. -/
def Tile (tag : ℕ) : ℕ → List Piece → ℕ → Prop
  | start, [], stop => start = stop
  | start, p :: rest, stop =>
      p.tag = tag ∧ p.offset = start ∧ 0 < p.length ∧ Tile tag (start + p.length) rest stop

/-- The pieces make up whole requests of the given sizes, of which the first has the index `tag`. -/
def Cover : ℕ → List ℕ → List Piece → Prop
  | _, [], ps => ps = []
  | tag, size :: sizes, ps =>
      ∃ own later, ps = own ++ later ∧ Tile tag 0 own size ∧ Cover (tag + 1) sizes later

theorem Tile.stop_eq {tag start stop : ℕ} {ps : List Piece} (h : Tile tag start ps stop) :
    stop = start + payload ps := by
  induction ps generalizing start with
  | nil => exact h.symm
  | cons p ps ih =>
      have := ih h.2.2.2
      simp only [payload_cons]
      omega

/-- The first chunk of a tiling, which ends where the others begin. -/
theorem Tile.of_cons {tag start stop : ℕ} {c : Chunk} {cs : List Chunk}
    (h : Tile tag start ((c :: cs).map Chunk.piece) stop) :
    c.tagIndex = tag ∧ c.offset.toNat = start ∧ c.offset.toNat + c.chunkSize.toNat ≤ stop ∧
      Tile tag (c.offset.toNat + c.chunkSize.toNat) (cs.map Chunk.piece) stop := by
  obtain ⟨htag, rfl, -, hrest⟩ := h
  have hstop := hrest.stop_eq
  exact ⟨htag, rfl, hstop ▸ Nat.le_add_right _ _, hrest⟩

/-- The chunks of the first request of a cover, after which those of the others come. -/
theorem Cover.of_cons {tag size : ℕ} {sizes : List ℕ} {cs : List Chunk}
    (h : Cover tag (size :: sizes) (cs.map Chunk.piece)) :
    ∃ own later, cs = own ++ later ∧ Tile tag 0 (own.map Chunk.piece) size ∧
      Cover (tag + 1) sizes (later.map Chunk.piece) := by
  obtain ⟨own, later, hsplit, htile, hcover⟩ := h
  obtain ⟨cs, cs', rfl, rfl, rfl⟩ := List.map_eq_append_iff.1 hsplit
  exact ⟨cs, cs', rfl, htile, hcover⟩

theorem Tile.of_mem {tag start stop : ℕ} {ps : List Piece} (h : Tile tag start ps stop) {p : Piece}
    (hp : p ∈ ps) : p.tag = tag ∧ 0 < p.length := by
  induction ps generalizing start with
  | nil => simp at hp
  | cons q ps ih =>
      rcases List.mem_cons.1 hp with rfl | hp
      · exact ⟨h.1, h.2.2.1⟩
      · exact ih h.2.2.2 hp

theorem Tile.add_length_le {tag start stop : ℕ} {ps : List Piece} (h : Tile tag start ps stop)
    {p : Piece} (hp : p ∈ ps) : p.offset + p.length ≤ stop := by
  induction ps generalizing start with
  | nil => simp at hp
  | cons q ps ih =>
      obtain ⟨-, hoffset, -, hrest⟩ := h
      rcases List.mem_cons.1 hp with rfl | hp
      · have hstop := hrest.stop_eq
        omega
      · exact ih hrest hp

theorem Tile.le_offset {tag start stop : ℕ} {ps : List Piece} (h : Tile tag start ps stop)
    {p : Piece} (hp : p ∈ ps) : start ≤ p.offset := by
  induction ps generalizing start with
  | nil => simp at hp
  | cons q ps ih =>
      obtain ⟨-, rfl, -, hrest⟩ := h
      rcases List.mem_cons.1 hp with rfl | hp
      · exact Nat.le_refl _
      · exact Nat.le_trans (Nat.le_add_right _ _) (ih hrest hp)

theorem Tile.pairwise_before {tag start stop : ℕ} {ps : List Piece} (h : Tile tag start ps stop) :
    ps.Pairwise Before := by
  induction ps generalizing start with
  | nil => exact .nil
  | cons p ps ih =>
      obtain ⟨htag, rfl, -, hrest⟩ := h
      refine .cons (fun q hq => .inr ⟨?_, hrest.le_offset hq⟩) (ih hrest)
      rw [htag, (hrest.of_mem hq).1]

/-- A request is more than one of its pieces exactly when it has others. -/
theorem Tile.lt_stop_iff {tag stop : ℕ} {ps : List Piece} (h : Tile tag 0 ps stop) {p : Piece}
    (hp : p ∈ ps) : p.length < stop ↔ 2 ≤ ps.length := by
  obtain ⟨before, after, rfl⟩ := List.append_of_mem hp
  have hstop := h.stop_eq
  rw [payload_append, payload_cons] at hstop
  rw [List.length_append, List.length_cons]
  constructor
  · intro hlt
    by_contra hlength
    obtain rfl : before = [] := List.length_eq_zero_iff.1 (by omega)
    obtain rfl : after = [] := List.length_eq_zero_iff.1 (by omega)
    rw [payload_nil] at hstop
    omega
  · intro hlength
    by_cases hbefore : before = []
    · have hafter : after ≠ [] := by
        rintro rfl
        simp [hbefore] at hlength
      have hpos := payload_pos hafter fun q hq => (h.of_mem (by simp [hq])).2
      omega
    · have hpos := payload_pos hbefore fun q hq => (h.of_mem (by simp [hq])).2
      omega

/-- The last piece of a request begins where the others end, and ends where the request does. -/
theorem Tile.of_concat {tag start stop : ℕ} {ps : List Piece} {q : Piece}
    (h : Tile tag start (ps ++ [q]) stop) :
    Tile tag start ps q.offset ∧ q.offset + q.length = stop := by
  induction ps generalizing start with
  | nil =>
      obtain ⟨-, rfl, -, hstop⟩ := h
      exact ⟨rfl, hstop⟩
  | cons p ps ih =>
      obtain ⟨htag, hoffset, hpos, hrest⟩ := h
      obtain ⟨hinit, hstop⟩ := ih hrest
      exact ⟨⟨htag, hoffset, hpos, hinit⟩, hstop⟩

/-- Every byte of a request is in one of its pieces. -/
theorem Tile.exists_mem {tag start stop : ℕ} {ps : List Piece} (h : Tile tag start ps stop) {j : ℕ}
    (hstart : start ≤ j) (hstop : j < stop) :
    ∃ p ∈ ps, p.offset ≤ j ∧ j < p.offset + p.length := by
  induction ps generalizing start with
  | nil =>
      have hend : start = stop := h
      omega
  | cons p ps ih =>
      obtain ⟨-, hoffset, -, hrest⟩ := h
      by_cases hj : j < start + p.length
      · exact ⟨p, by simp, by omega, by omega⟩
      · obtain ⟨q, hq, hle, hlt⟩ := ih hrest (by omega)
        exact ⟨q, by simp [hq], hle, hlt⟩

/-- An empty request has no piece. -/
theorem Tile.eq_nil {tag start : ℕ} {ps : List Piece} (h : Tile tag start ps start) : ps = [] := by
  have hstop := h.stop_eq
  by_contra hne
  have := payload_pos hne fun p hp => (h.of_mem hp).2
  omega

/-- A request of one byte has one piece. -/
theorem Tile.length_eq_one {tag : ℕ} {ps : List Piece} (h : Tile tag 0 ps 1) : ps.length = 1 := by
  cases ps with
  | nil => exact absurd h (by simp [Tile])
  | cons p ps =>
      have hpos := h.2.2.1
      have hrest := h.2.2.2
      have hstop := hrest.stop_eq
      rw [show 0 + p.length = 1 by omega] at hrest
      simp [hrest.eq_nil]

theorem Cover.length_eq_of_replicate {tag n : ℕ} {ps : List Piece}
    (h : Cover tag (List.replicate n 1) ps) : ps.length = n := by
  induction n generalizing tag ps with
  | zero => simp [show ps = [] from h]
  | succ n ih =>
      obtain ⟨own, later, rfl, htile, hcover⟩ := h
      rw [List.length_append, htile.length_eq_one, ih hcover, Nat.add_comm]

theorem Cover.length_pos {tag : ℕ} {sizes : List ℕ} {ps : List Piece} (h : Cover tag sizes ps)
    {p : Piece} (hp : p ∈ ps) : 0 < p.length := by
  induction sizes generalizing tag ps with
  | nil => rw [show ps = [] from h] at hp; simp at hp
  | cons size sizes ih =>
      obtain ⟨own, later, rfl, htile, hcover⟩ := h
      rcases List.mem_append.1 hp with hp | hp
      · exact (htile.of_mem hp).2
      · exact ih hcover hp

/-- Every piece is of one of the requests. -/
theorem Cover.exists_tag_eq {tag : ℕ} {sizes : List ℕ} {ps : List Piece} (h : Cover tag sizes ps)
    {p : Piece} (hp : p ∈ ps) : ∃ k size, p.tag = tag + k ∧ sizes[k]? = some size := by
  induction sizes generalizing tag ps with
  | nil => rw [show ps = [] from h] at hp; simp at hp
  | cons size sizes ih =>
      obtain ⟨own, later, rfl, htile, hcover⟩ := h
      rcases List.mem_append.1 hp with hp | hp
      · exact ⟨0, size, (htile.of_mem hp).1, rfl⟩
      · obtain ⟨k, size', htag, hsize⟩ := ih hcover hp
        exact ⟨k + 1, size', by omega, hsize⟩

/-- The pieces of requests come in order. -/
theorem Cover.pairwise_before {tag : ℕ} {sizes : List ℕ} {ps : List Piece}
    (h : Cover tag sizes ps) : ps.Pairwise Before := by
  induction sizes generalizing tag ps with
  | nil =>
      rw [show ps = [] from h]
      exact .nil
  | cons size sizes ih =>
      obtain ⟨own, later, rfl, htile, hcover⟩ := h
      refine List.pairwise_append.2 ⟨htile.pairwise_before, ih hcover, fun p hp q hq => .inl ?_⟩
      have htag := (htile.of_mem hp).1
      obtain ⟨k, _, htag', -⟩ := hcover.exists_tag_eq hq
      omega

/-- Among the pieces of all requests those of one request make it up. -/
theorem Cover.tile_filter {tag : ℕ} {sizes : List ℕ} {ps : List Piece} (h : Cover tag sizes ps)
    {k size : ℕ} (hsize : sizes[k]? = some size) :
    Tile (tag + k) 0 (ps.filter (·.tag = tag + k)) size := by
  induction sizes generalizing tag ps k with
  | nil => simp at hsize
  | cons size' sizes ih =>
      obtain ⟨own, later, rfl, htile, hcover⟩ := h
      rw [List.filter_append]
      cases k with
      | zero =>
          obtain rfl : size' = size := by simpa using hsize
          have hown : own.filter (·.tag = tag + 0) = own := by
            rw [List.filter_eq_self]
            intro p hp
            simpa using (htile.of_mem hp).1
          have hlater : later.filter (·.tag = tag + 0) = [] := by
            rw [List.filter_eq_nil_iff]
            intro p hp
            obtain ⟨k, -, htag, -⟩ := hcover.exists_tag_eq hp
            simp only [decide_eq_true_eq]
            omega
          rw [hown, hlater, List.append_nil]
          exact htile
      | succ k =>
          have hown : own.filter (·.tag = tag + (k + 1)) = [] := by
            rw [List.filter_eq_nil_iff]
            intro p hp
            have htag := (htile.of_mem hp).1
            simp only [decide_eq_true_eq]
            omega
          have hrest := ih hcover hsize
          rw [Nat.add_right_comm, Nat.add_assoc] at hrest
          rw [hown, List.nil_append]
          exact hrest

/-- Every piece ends within its request. -/
theorem Cover.exists_le {sizes : List ℕ} {ps : List Piece} (h : Cover 0 sizes ps) {p : Piece}
    (hp : p ∈ ps) : ∃ size, sizes[p.tag]? = some size ∧ p.offset + p.length ≤ size := by
  obtain ⟨k, size, htag, hsize⟩ := h.exists_tag_eq hp
  have hmem : p ∈ ps.filter (·.tag = 0 + k) := List.mem_filter.2 ⟨hp, by simpa using htag⟩
  refine ⟨size, ?_, (h.tile_filter hsize).add_length_le hmem⟩
  rw [htag, Nat.zero_add]
  exact hsize

/-- A request is one piece when no piece begins behind its start. -/
theorem Tile.map_length_eq {tag stop : ℕ} {ps : List Piece} (h : Tile tag 0 ps stop)
    (hpos : 0 < stop) (hoffset : ∀ p ∈ ps, p.offset = 0) : ps.map Piece.length = [stop] := by
  cases ps with
  | nil =>
      have hzero : 0 = stop := h
      omega
  | cons p ps =>
      obtain ⟨-, -, hp, hrest⟩ := h
      cases ps with
      | nil =>
          have hlength : 0 + p.length = stop := hrest
          rw [← hlength, Nat.zero_add]
          rfl
      | cons q ps =>
          have hnext : q.offset = 0 + p.length := hrest.2.1
          have hzero := hoffset q (by simp)
          omega

theorem Cover.map_length_eq {tag : ℕ} {sizes : List ℕ} {ps : List Piece} (h : Cover tag sizes ps)
    (hpos : ∀ size ∈ sizes, 0 < size) (hoffset : ∀ p ∈ ps, p.offset = 0) :
    ps.map Piece.length = sizes := by
  induction sizes generalizing tag ps with
  | nil => rw [show ps = [] from h, List.map_nil]
  | cons size sizes ih =>
      obtain ⟨own, later, rfl, htile, hcover⟩ := h
      obtain ⟨hsize, hsizes⟩ := List.forall_mem_cons.1 hpos
      obtain ⟨hown, hlater⟩ := List.forall_mem_append.1 hoffset
      rw [List.map_append, htile.map_length_eq hsize hown, ih hcover hsizes hlater]
      rfl

/-- Requests that are each carried by as many pieces as there are requests, of the same lengths, are
carried whole: the piece at a position is all of the request at that position. -/
theorem Cover.tag_eq_of_map_length {tag : ℕ} {sizes : List ℕ} {ps : List Piece}
    (h : Cover tag sizes ps) (hlength : ps.map Piece.length = sizes) {i : ℕ} {p : Piece}
    (hp : ps[i]? = some p) : p.tag = tag + i ∧ p.offset = 0 := by
  induction sizes generalizing tag ps i with
  | nil =>
      rw [show ps = [] from h] at hp
      simp at hp
  | cons size sizes ih =>
      obtain ⟨own, later, rfl, htile, hcover⟩ := h
      cases own with
      | nil =>
          -- The request would be empty, and no piece has its length.
          obtain ⟨q, rest, rfl, hq, -⟩ := List.map_eq_cons_iff.1 hlength
          have hpos := hcover.length_pos (List.mem_cons_self : q ∈ q :: rest)
          have hzero : 0 = size := htile
          omega
      | cons q own =>
          obtain ⟨htag, hoffset, -, hown⟩ := htile
          simp only [List.cons_append, List.map_cons, List.cons.injEq] at hlength
          rw [Nat.zero_add, hlength.1] at hown
          obtain rfl := hown.eq_nil
          cases i with
          | zero =>
              obtain rfl : q = p := by simpa using hp
              exact ⟨htag, hoffset⟩
          | succ i =>
              obtain ⟨hp, hp'⟩ := ih hcover hlength.2 hp
              exact ⟨by omega, hp'⟩

end S7Request
