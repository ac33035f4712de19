import S7Request.Proofs.Packing.Fewest
import S7Request.Proofs.Plan.Make
import Mathlib.Order.Bounds.Defs

/-!
# Requests of reads

A read is packed by the length of its response, where an item costs less than in the request. So
many small items can share a group whose request is longer than the negotiated length. The longest
request that any items lead to is computed for every length, and from it the lengths at which all
requests fit.
-/
namespace S7Request

open Piece

/-- The length of the telegram that asks for the chunks of a group. -/
def Group.readRequestLength (g : Group) : ℕ :=
  Telegram.jobHeader + Telegram.parameterBase + Telegram.itemSpecification * g.chunks.length

/-- Every piece of a group but the last takes up its overhead and a byte before the reserve is
reached. -/
theorem Admitted.mul_length_lt {target overhead reserve : ℕ} {ps : List Piece}
    (h : Admitted target overhead reserve ps) (hreserve : reserve < target) :
    (overhead + 1) * (ps.length - 1) + reserve < target := by
  rcases List.eq_nil_or_concat ps with rfl | ⟨before, p, rfl⟩
  · simpa using hreserve
  · rw [List.concat_eq_append] at h ⊢
    have hload := mul_length_le_load overhead
      (fun q hq => h.length_pos q (List.mem_append_left [p] hq))
    rw [List.length_append, List.length_singleton, Nat.add_sub_cancel]
    by_cases hne : before = []
    · simpa [hne] using hreserve
    · have := h.reserve_free before p [] rfl hne
      omega

/-- Requests of one byte each, the first of them at the index `tag`, each in one piece. -/
def oneBytePieces (tag n : ℕ) : List Piece :=
  (List.range' tag n).map fun i => ⟨i, 0, 1⟩

theorem cover_oneBytePieces (tag n : ℕ) :
    Cover tag (List.replicate n 1) (oneBytePieces tag n) := by
  induction n generalizing tag with
  | zero => rfl
  | succ n ih =>
      exact ⟨[⟨tag, 0, 1⟩], oneBytePieces (tag + 1) n, rfl, ⟨rfl, rfl, Nat.one_pos, rfl⟩,
        ih (tag + 1)⟩

theorem load_oneBytePieces (overhead tag n : ℕ) :
    load overhead (oneBytePieces tag n) = (overhead + 1) * n := by
  simp [load, oneBytePieces, Function.comp_def, Nat.mul_comm, Nat.add_comm]

/-- Requests of one byte each may all share one group of a read if the last begins while the margin
is free. -/
theorem orderly_oneBytePieces {b : Budget} {n : ℕ} (hn : 0 < n)
    (hfits : (b.overhead.toNat + 1) * n ≤ b.target.toNat)
    (hfree : (b.overhead.toNat + 1) * (n - 1) + b.margin.toNat < b.target.toNat) :
    Orderly .read b (List.replicate n 1) [oneBytePieces 0 n] where
  ne_nil := by simp [oneBytePieces, Nat.ne_of_gt hn]
  cover := by simpa using cover_oneBytePieces 0 n
  load_le := by simpa [load_oneBytePieces] using hfits
  margin_free _ g hg before p after he _ := by
    rw [List.mem_singleton.1 hg] at he
    have hpos : 0 < p.length := (cover_oneBytePieces 0 n).length_pos (by simp [he])
    have hload := load_oneBytePieces b.overhead.toNat 0 n
    have hsucc : (b.overhead.toNat + 1) * n =
        (b.overhead.toNat + 1) * (n - 1) + (b.overhead.toNat + 1) := by
      rw [← Nat.mul_succ, Nat.succ_eq_add_one, Nat.sub_add_cancel hn]
    rw [he, load_append, load_cons] at hload
    omega

/-- Packing them puts them all into one group, for no packing uses fewer. -/
theorem pack_oneByte {b : Budget} {n : ℕ} {packing : Packing}
    (h : pack .read (List.replicate n 1) b = .ok packing) (hn : 0 < n)
    (hfits : (b.overhead.toNat + 1) * n ≤ b.target.toNat)
    (hfree : (b.overhead.toNat + 1) * (n - 1) + b.margin.toNat < b.target.toNat) :
    ∃ g, packing.groups = [g] ∧ g.chunks.length = n := by
  have hle := length_groups_le h (orderly_oneBytePieces hn hfits hfree)
  have hcover := cover_of_pack h
  rw [List.map_replicate] at hcover
  have hcount := hcover.length_eq_of_replicate
  match hg : packing.groups with
  | [] =>
      rw [hg] at hcount
      exact absurd hcount (Nat.ne_of_lt hn)
  | [g] => exact ⟨g, rfl, by simpa [hg, Group.pieces] using hcount⟩
  | g :: g' :: gs => simp [hg] at hle

/-- The budget of a read that follows from a telegram length. -/
theorem toNat_readBudget (pduLength : UInt16) :
    (Budget.ofPduLength .read pduLength).target.toNat = pduLength.toNat - 14 ∧
      (Budget.ofPduLength .read pduLength).overhead.toNat = 5 ∧
      (Budget.ofPduLength .read pduLength).margin.toNat = 12 :=
  ⟨Word.toNat_subClamped _ _, rfl, rfl⟩

theorem le_pduLength_of_budget {pduLength : UInt16} {b : Budget}
    (h : (PlannerConfig.ofPduLength pduLength).budget .read = .ok b) :
    b = .ofPduLength .read pduLength ∧ 27 ≤ pduLength.toNat := by
  obtain ⟨hb, rfl⟩ := Budget.checked_eq_ok_iff.1 h
  obtain ⟨htarget, -, hmargin⟩ := toNat_readBudget pduLength
  have := UInt64.lt_iff_toNat_lt.1 (hb.2 rfl)
  refine ⟨rfl, ?_⟩
  simp only [PlannerConfig.given, PlannerConfig.ofPduLength, Option.getD_none, htarget,
    hmargin] at this
  omega

def oneByteItem : Item :=
  ⟨.flags, 0, 0, 0, .byte, 1⟩

/-- The longest request that reading any items can lead to, when the budget follows from the
telegram length. One-byte items lead to it. -/
theorem isGreatest_readRequestLength {pduLength : UInt16} {b : Budget}
    (h : (PlannerConfig.ofPduLength pduLength).budget .read = .ok b) :
    IsGreatest {n | ∃ items plan, Plan.make .read (.ofPduLength pduLength) items = .ok plan ∧
        ∃ g ∈ plan.groups, n = g.readRequestLength}
      (24 + 12 * ((pduLength.toNat - 27) / 6)) := by
  obtain ⟨rfl, hpdu⟩ := le_pduLength_of_budget h
  obtain ⟨htarget, hoverhead, hmargin⟩ := toNat_readBudget pduLength
  constructor
  · let n := (pduLength.toNat - 27) / 6 + 1
    obtain ⟨plan, hplan, hpack, -⟩ := Plan.exists_make h (List.replicate n oneByteItem)
    rw [Plan.sizes, List.map_replicate] at hpack
    obtain ⟨g, hgroups, hlength⟩ := pack_oneByte hpack (Nat.succ_pos _)
      (by rw [htarget, hoverhead]; omega) (by rw [htarget, hoverhead, hmargin]; omega)
    refine ⟨_, plan, hplan, g, by simp [Plan.groups, hgroups], ?_⟩
    simp only [Group.readRequestLength, hlength, Telegram.jobHeader, Telegram.parameterBase,
      Telegram.itemSpecification, n]
    omega
  · rintro _ ⟨items, plan, hplan, g, hg, rfl⟩
    obtain ⟨b, hb, hpack, -⟩ := Plan.make_eq_ok_iff.1 hplan
    obtain rfl := Except.ok.inj (h.symm.trans hb)
    have hbound := (admits_of_pack hpack hg).mul_length_lt (by
      rw [if_pos rfl, htarget, hmargin]
      omega)
    rw [if_pos rfl, htarget, hoverhead, hmargin, Group.pieces, List.length_map] at hbound
    simp only [Group.readRequestLength, Telegram.jobHeader, Telegram.parameterBase,
      Telegram.itemSpecification]
    omega

/-- The requests of all reads fit into the negotiated telegram length exactly when the length is
below 33 or one of 36, 37 and 38. At every other length some one-byte items share a request that is
too long. -/
theorem readRequests_fit_iff {pduLength : UInt16} {b : Budget}
    (h : (PlannerConfig.ofPduLength pduLength).budget .read = .ok b) :
    (∀ items, ∃ plan, Plan.make .read (.ofPduLength pduLength) items = .ok plan ∧
        ∀ g ∈ plan.groups, g.readRequestLength ≤ pduLength.toNat) ↔
      pduLength.toNat < 33 ∨ 36 ≤ pduLength.toNat ∧ pduLength.toNat < 39 := by
  obtain ⟨⟨items, plan, hplan, g, hg, hlongest⟩, hbound⟩ := isGreatest_readRequestLength h
  have hpdu := (le_pduLength_of_budget h).2
  constructor
  · intro hfits
    obtain ⟨plan', hplan', hfits⟩ := hfits items
    obtain rfl := Except.ok.inj (hplan.symm.trans hplan')
    have := hfits g hg
    omega
  · intro hsmall items
    obtain ⟨plan, hplan, -⟩ := Plan.exists_make h items
    refine ⟨plan, hplan, fun g hg => ?_⟩
    have := hbound ⟨items, plan, hplan, g, hg, rfl⟩
    omega

/-- At the usual length of 240 bytes not all requests fit. -/
theorem readRequests_not_fit_240 :
    (PlannerConfig.ofPduLength 240).budget .read = .ok (.ofPduLength .read 240) ∧
      ¬∀ items, ∃ plan, Plan.make .read (.ofPduLength 240) items = .ok plan ∧
        ∀ g ∈ plan.groups, g.readRequestLength ≤ (240 : UInt16).toNat := by
  have h : (PlannerConfig.ofPduLength 240).budget .read = .ok (.ofPduLength .read 240) := by decide
  refine ⟨h, fun hall => ?_⟩
  have := (readRequests_fit_iff h).1 hall
  simp at this

example : (Plan.make .read (.ofPduLength 240) (List.replicate 20 oneByteItem)).map
    (fun plan => plan.groups.map Group.readRequestLength) = .ok [252] := by cbv

end S7Request
