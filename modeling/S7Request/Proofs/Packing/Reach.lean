import S7Request.Proofs.Packing.Tiling
import Mathlib.Order.Basic

/-!
# How far a group reaches

A group that takes all it can from requests in order carries a number of bytes that depends on what
it has used already and on the sizes of what is left. Using more never carries more, cutting a
request early never carries more, and beginning later never ends earlier. By induction over groups,
a packing whose groups all reach as far as they can has no more groups than any other one.
-/
namespace S7Request

open Piece

/-- The sizes of what is left after some bytes of the requests; nothing is left of the first. -/
def skip : ℕ → List ℕ → List ℕ
  | _, [] => []
  | n, size :: rest => if n < size then (size - n) :: rest else skip (n - size) rest

/-- The bytes that a group takes from requests in order, with some of it used already. Each
request gives all that fits, and none is begun in a closed group. -/
def reach (target overhead reserve : ℕ) : ℕ → List ℕ → ℕ
  | _, [] => 0
  | used, size :: rest =>
      if size = 0 then reach target overhead reserve used rest
      else if target ≤ used + max overhead reserve then 0
      else if size ≤ target - used - overhead then
        size + reach target overhead reserve (used + size + overhead) rest
      else target - used - overhead

/-- The pieces are cut from the requests in order: none is empty or longer than what is left of the
request that it begins in, and nothing is left over. -/
def Cuts : List ℕ → List Piece → Prop
  | rest, [] => skip 0 rest = []
  | rest, p :: ps =>
      0 < p.length ∧ (∃ size tail, skip 0 rest = size :: tail ∧ p.length ≤ size) ∧
        Cuts (skip p.length rest) ps

@[simp] theorem skip_nil (n : ℕ) : skip n [] = [] := rfl

@[simp] theorem skip_zero_cons (n : ℕ) (rest : List ℕ) : skip n (0 :: rest) = skip n rest := by
  simp [skip]

theorem skip_of_le {n size : ℕ} (rest : List ℕ) (h : n ≤ size) :
    skip n (size :: rest) = skip 0 ((size - n) :: rest) := by
  rcases Nat.lt_or_eq_of_le h with h | rfl
  · simp [skip, h, Nat.sub_pos_of_lt h]
  · simp [skip]

theorem skip_skip (m n : ℕ) (rest : List ℕ) : skip m (skip n rest) = skip (n + m) rest := by
  induction rest generalizing n with
  | nil => simp
  | cons size rest ih =>
      by_cases h : n < size
      · rw [skip, if_pos h]
        by_cases hm : m < size - n
        · simp only [skip, if_pos hm, if_pos (show n + m < size by omega), List.cons.injEq,
            and_true]
          omega
        · simp only [skip, if_neg hm, if_neg (show ¬n + m < size by omega)]
          congr 1
          omega
      · simp only [skip, if_neg h, if_neg (show ¬n + m < size by omega), ih]
        congr 1
        omega

@[simp] theorem cuts_zero_cons (rest : List ℕ) (ps : List Piece) :
    Cuts (0 :: rest) ps ↔ Cuts rest ps := by cases ps <;> simp [Cuts]

theorem cuts_skip_zero (rest : List ℕ) (ps : List Piece) :
    Cuts (skip 0 rest) ps ↔ Cuts rest ps := by
  cases ps <;> simp [Cuts, skip_skip]

/-- The pieces of one request are cut from it. -/
theorem Tile.cuts {tag start stop : ℕ} {own later : List Piece} {rest : List ℕ}
    (h : Tile tag start own stop) (hlater : Cuts rest later) :
    Cuts ((stop - start) :: rest) (own ++ later) := by
  induction own generalizing start with
  | nil => simpa [show start = stop from h] using hlater
  | cons p own ih =>
      have hstop := h.2.2.2.stop_eq
      have hpos := h.2.2.1
      refine ⟨hpos, ⟨stop - start, rest, ?_, by omega⟩, ?_⟩
      · simp [skip, show 0 < stop - start by omega]
      · rw [skip_of_le rest (by omega), cuts_skip_zero, Nat.sub_sub]
        exact ih h.2.2.2

theorem Cover.cuts {tag : ℕ} {sizes : List ℕ} {ps : List Piece} (h : Cover tag sizes ps) :
    Cuts sizes ps := by
  induction sizes generalizing tag ps with
  | nil =>
      rw [show ps = [] from h]
      exact skip_nil 0
  | cons size sizes ih =>
      obtain ⟨own, later, rfl, htile, hcover⟩ := h
      simpa using htile.cuts (ih hcover)

section Reach

variable {target overhead reserve : ℕ}

@[simp] theorem reach_nil (used : ℕ) : reach target overhead reserve used [] = 0 := rfl

@[simp] theorem reach_zero_cons (used : ℕ) (rest : List ℕ) :
    reach target overhead reserve used (0 :: rest) = reach target overhead reserve used rest := by
  simp [reach]

/-- Nothing goes into a closed group. -/
theorem reach_of_closed {used : ℕ} (h : target ≤ used + max overhead reserve) (rest : List ℕ) :
    reach target overhead reserve used rest = 0 := by
  induction rest with
  | nil => rfl
  | cons size rest ih => simp [reach, h, ih]

/-- An open group takes the share of the next request that fits, then goes on. -/
theorem reach_cons {used size share : ℕ} (hopen : used + max overhead reserve < target)
    (hsize : 0 < size) (hshare : share = min size (target - used - overhead)) (rest : List ℕ) :
    reach target overhead reserve used (size :: rest) =
      share + reach target overhead reserve (used + share + overhead) ((size - share) :: rest) := by
  rw [reach, if_neg (Nat.ne_of_gt hsize), if_neg (Nat.not_le_of_lt hopen)]
  by_cases hfits : size ≤ target - used - overhead
  · rw [if_pos hfits, hshare, Nat.min_eq_left hfits, Nat.sub_self, reach_zero_cons]
  · rw [if_neg hfits, reach_of_closed (by omega)]
    omega

theorem reach_skip_zero (used : ℕ) (rest : List ℕ) :
    reach target overhead reserve used (skip 0 rest) = reach target overhead reserve used rest := by
  induction rest with
  | nil => rfl
  | cons size rest ih =>
      rcases Nat.eq_zero_or_pos size with rfl | hpos
      · simpa using ih
      · simp [skip, hpos]

/-- A fuller group carries no more. -/
theorem reach_antitone (target overhead reserve : ℕ) {used used' : ℕ} (h : used ≤ used')
    (rest : List ℕ) :
    reach target overhead reserve used' rest ≤ reach target overhead reserve used rest := by
  induction rest generalizing used used' with
  | nil => exact Nat.le_refl 0
  | cons size rest ih =>
      have hnext := ih (show used + size + overhead ≤ used' + size + overhead by omega)
      simp only [reach]
      split_ifs <;> first | exact ih h | omega

/-- Beginning later does not end earlier. -/
theorem reach_le_add_reach_skip (target overhead reserve used n : ℕ) (rest : List ℕ) :
    reach target overhead reserve used rest ≤
      n + reach target overhead reserve used (skip n rest) := by
  induction rest generalizing n with
  | nil => simp
  | cons size rest ih =>
      by_cases hn : n < size
      · have hless := reach_antitone target overhead reserve
          (show used + (size - n) + overhead ≤ used + size + overhead by omega) rest
        simp only [skip, if_pos hn, reach]
        split_ifs <;> omega
      · have hwhole : reach target overhead reserve used (size :: rest) ≤
            size + reach target overhead reserve used rest := by
          have hless := reach_antitone target overhead reserve
            (show used ≤ used + size + overhead by omega) rest
          simp only [reach]
          split_ifs <;> omega
        have hlater := ih (n - size)
        rw [skip, if_neg hn]
        omega

/-- Cutting a request before the group is full carries no more. -/
theorem length_add_reach_le {used size n : ℕ} (hopen : used + max overhead reserve < target)
    (hn : 0 < n) (hsize : n ≤ size) (hfits : used + n + overhead ≤ target) (rest : List ℕ) :
    n + reach target overhead reserve (used + n + overhead) (skip n (size :: rest)) ≤
      reach target overhead reserve used (size :: rest) := by
  rw [skip_of_le rest hsize, reach_skip_zero]
  have hless := reach_antitone target overhead reserve
    (show used + size + overhead ≤ used + n + overhead + (size - n) + overhead by omega) rest
  rcases Nat.lt_or_eq_of_le hsize with hlt | rfl
  · simp only [reach]
    split_ifs <;> omega
  · refine Nat.le_of_eq ?_
    rw [Nat.sub_self, reach_zero_cons, reach, if_neg (by omega), if_neg (by omega),
      if_pos (by omega)]

/-- No group carries more than one that takes all it can. -/
theorem payload_le_reach (used : ℕ) {rest : List ℕ} {g later : List Piece}
    (hcuts : Cuts rest (g ++ later)) (hfits : used + load overhead g ≤ target)
    (hopen : ∀ before p after, g = before ++ p :: after →
      used + load overhead before + max overhead reserve < target) :
    payload g ≤ reach target overhead reserve used rest ∧ Cuts (skip (payload g) rest) later := by
  induction g generalizing used rest with
  | nil => exact ⟨Nat.zero_le _, (cuts_skip_zero rest later).2 hcuts⟩
  | cons p g ih =>
      obtain ⟨hpos, ⟨size, tail, htail, hsize⟩, hcuts⟩ := hcuts
      rw [load_cons] at hfits
      have hhead := hopen [] p g rfl
      obtain ⟨hpayload, hlater⟩ := ih (used + p.length + overhead) hcuts (by omega) (by
        intro before q after he
        have := hopen (p :: before) q after (by simp [he])
        rw [load_cons] at this
        omega)
      have hskip : skip p.length rest = skip p.length (size :: tail) := by
        rw [← htail, skip_skip, Nat.zero_add]
      have hstep := length_add_reach_le (by simpa using hhead) hpos hsize (by omega) tail
      rw [← hskip, ← htail, reach_skip_zero] at hstep
      refine ⟨?_, ?_⟩
      · rw [payload_cons]
        omega
      · rwa [payload_cons, ← skip_skip]

/-- Groups that take from requests in order all they can, and something, until `left` is left. -/
def Fills (target overhead reserve : ℕ) : List ℕ → List (List Piece) → List ℕ → Prop
  | rest, [], left => left = skip 0 rest
  | rest, g :: gs, left =>
      0 < payload g ∧ payload g = reach target overhead reserve 0 rest ∧
        Fills target overhead reserve (skip (payload g) rest) gs left

theorem Fills.concat {rest left : List ℕ} {gs : List (List Piece)} {g : List Piece}
    (h : Fills target overhead reserve rest gs left) (hpos : 0 < payload g)
    (hg : payload g = reach target overhead reserve 0 left) :
    Fills target overhead reserve rest (gs ++ [g]) (skip (payload g) left) := by
  induction gs generalizing rest with
  | nil =>
      subst h
      rw [reach_skip_zero] at hg
      exact ⟨hpos, hg, by simp [Fills, skip_skip]⟩
  | cons g' gs ih => exact ⟨h.1, h.2.1, ih h.2.2⟩

/-- Groups that take all they can stay ahead of any others, so there are no more of them. -/
theorem Fills.length_le {rest left : List ℕ} {gs hs : List (List Piece)} (ahead : ℕ)
    (h : Fills target overhead reserve (skip ahead rest) gs left) (hcuts : Cuts rest hs.flatten)
    (hfits : ∀ g ∈ hs, load overhead g ≤ target)
    (hopen : ∀ g ∈ hs, ∀ before p after, g = before ++ p :: after →
      load overhead before + max overhead reserve < target) :
    gs.length ≤ hs.length := by
  induction hs generalizing rest gs ahead with
  | nil =>
      cases gs with
      | nil => exact Nat.le_refl 0
      | cons g gs =>
          have hall : skip ahead rest = [] := by
            rw [← Nat.zero_add ahead, ← skip_skip, show skip 0 rest = [] from hcuts, skip_nil]
          have := h.1
          have hzero := h.2.1
          rw [hall, reach_nil] at hzero
          omega
  | cons g' hs ih =>
      cases gs with
      | nil => exact Nat.zero_le _
      | cons g gs =>
          obtain ⟨hbehind, hlater⟩ := payload_le_reach 0 hcuts
            (by simpa using hfits g' (by simp)) (by simpa using hopen g' (by simp))
          have hahead := reach_le_add_reach_skip target overhead reserve 0 ahead rest
          have hg := h.2.1
          have hrest : skip (payload g) (skip ahead rest) =
              skip (ahead + payload g - payload g') (skip (payload g') rest) := by
            rw [skip_skip, skip_skip]
            congr 1
            omega
          have hnext := h.2.2
          rw [hrest] at hnext
          exact Nat.succ_le_succ (ih _ hnext hlater (fun x hx => hfits x (by simp [hx]))
            fun x hx => hopen x (by simp [hx]))

end Reach

end S7Request
