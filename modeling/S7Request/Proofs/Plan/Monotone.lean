import S7Request.Proofs.Packing.Monotone
import S7Request.Proofs.Plan.DataTelegram

/-!
# Longer telegrams

A longer telegram leaves more room for items and charges each of them the same. So planning the same
items for a longer telegram takes no more telegrams, and packing has no anomalies: nothing that
makes requests smaller or leaves more room adds a group.
-/
namespace S7Request

variable {d : Direction} {b : Budget} {config config' : PlannerConfig}

theorem Budget.Roomier.refl (d : Direction) (b : Budget) : b.Roomier d b :=
  ⟨UInt64.le_refl _, UInt64.le_refl _, fun _ => UInt64.le_refl _⟩

theorem Budget.roomier_ofPduLength (d : Direction) {pduLength pduLength' : UInt16}
    (h : pduLength' ≤ pduLength) :
    (ofPduLength d pduLength).Roomier d (ofPduLength d pduLength') := by
  have hle := UInt16.le_iff_toNat_le.1 h
  constructor
  · rw [UInt64.le_iff_toNat_le, toNat_target_ofPduLength, toNat_target_ofPduLength]
    omega
  · rw [UInt64.le_iff_toNat_le, toNat_overhead_ofPduLength, toNat_overhead_ofPduLength]
  · intro hd
    subst hd
    exact UInt64.le_refl _

/-- The budget of a direction is at least as roomy for a longer telegram, unless it is given
outright; then it is the same. -/
theorem PlannerConfig.exists_roomier_budget (hgiven : config.given d = config'.given d)
    (hle : config'.pduLength ≤ config.pduLength) {b' : Budget} (h : config'.budget d = .ok b') :
    ∃ b, config.budget d = .ok b ∧ b.Roomier d b' := by
  obtain ⟨haccepted, rfl⟩ := Budget.checked_eq_ok_iff.1 h
  have hroomier : ((config.given d).getD (.ofPduLength d config.pduLength)).Roomier d
      ((config'.given d).getD (.ofPduLength d config'.pduLength)) := by
    rw [hgiven]
    cases config'.given d with
    | none => exact Budget.roomier_ofPduLength d hle
    | some b => exact .refl d b
  exact ⟨_, Budget.checked_eq_ok_iff.2 ⟨hroomier.accepted haccepted, rfl⟩, hroomier⟩

/-- When requests pack under a budget, smaller ones pack under a roomier budget and do not take more
groups; and when items are planned, they are planned for a longer telegram and do not take more of
them. -/
theorem length_groups_monotone (d : Direction) :
    (∀ (sizes sizes' : List UInt64) (b b' : Budget) (packing' : Packing),
      List.Forall₂ (· ≤ ·) sizes sizes' → b.Roomier d b' → pack d sizes' b' = .ok packing' →
        ∃ packing, pack d sizes b = .ok packing ∧
          packing.groups.length ≤ packing'.groups.length) ∧
    ∀ (config config' : PlannerConfig) (items : List Item) (plan' : Plan d),
      config.given d = config'.given d → config'.pduLength ≤ config.pduLength →
        Plan.make d config' items = .ok plan' →
        ∃ plan, Plan.make d config items = .ok plan ∧
          plan.groups.length ≤ plan'.groups.length := by
  constructor
  · intro sizes sizes' b b' packing' hle hb h
    exact length_groups_le_of_roomier hle hb h
  · intro config config' items plan' hgiven hle h
    obtain ⟨b', hb', hpack', -⟩ := Plan.make_eq_ok_iff.1 h
    obtain ⟨b, hb, hroomier⟩ := PlannerConfig.exists_roomier_budget hgiven hle hb'
    obtain ⟨plan, hplan, hpack, -⟩ := Plan.exists_make hb items
    obtain ⟨packing, hpacking, hlength⟩ := length_groups_le_of_roomier
      (List.forall₂_same.2 fun size _ => UInt64.le_refl size) hroomier hpack'
    obtain rfl : plan.packing = packing := Except.ok.inj (hpack.symm.trans hpacking)
    exact ⟨plan, hplan, hlength⟩

/-- Requests that shrink, one of them to nothing, under a roomier budget; and an item that is
planned for telegrams of 240 and of 480 bytes. -/
theorem length_groups_monotone_480 :
    (List.Forall₂ (· ≤ ·) [70, 0, 5] [(85 : UInt64), 3, 5] ∧
      Budget.Roomier .read ⟨100, 10, 2⟩ ⟨98, 10, 12⟩ ∧
      ∃ packing packing', pack .read [85, 3, 5] ⟨98, 10, 12⟩ = .ok packing' ∧
        pack .read [70, 0, 5] ⟨100, 10, 2⟩ = .ok packing ∧
        packing.groups.length ≤ packing'.groups.length) ∧
    ((PlannerConfig.ofPduLength 480).given .write = (PlannerConfig.ofPduLength 240).given .write ∧
      (240 : UInt16) ≤ 480 ∧
      ∃ plan plan',
        Plan.make .write (.ofPduLength 240) [⟨.dataBlocks, 1, 0, 0, .byte, 300⟩] = .ok plan' ∧
        Plan.make .write (.ofPduLength 480) [⟨.dataBlocks, 1, 0, 0, .byte, 300⟩] = .ok plan ∧
        plan.groups.length ≤ plan'.groups.length) := by
  constructor
  · have hle : List.Forall₂ (· ≤ ·) [70, 0, 5] [(85 : UInt64), 3, 5] := by decide
    have hroomier : Budget.Roomier .read ⟨100, 10, 2⟩ ⟨98, 10, 12⟩ :=
      ⟨by decide, by decide, fun _ => by decide⟩
    have hpack' := pack_of_accepted (d := .read) (b := ⟨98, 10, 12⟩) (by decide) [85, 3, 5]
    obtain ⟨packing, hpack, hlength⟩ :=
      (length_groups_monotone .read).1 _ _ _ _ _ hle hroomier hpack'
    exact ⟨hle, hroomier, packing, _, hpack', hpack, hlength⟩
  · have hbudget : (PlannerConfig.ofPduLength 240).budget .write = .ok ⟨228, 17, 0⟩ := by decide
    obtain ⟨plan', hplan', -, -⟩ :=
      Plan.exists_make hbudget [⟨.dataBlocks, 1, 0, 0, .byte, 300⟩]
    have hle : (240 : UInt16) ≤ 480 := by decide
    obtain ⟨plan, hplan, hlength⟩ :=
      (length_groups_monotone .write).2 (.ofPduLength 480) (.ofPduLength 240) _ _ rfl hle hplan'
    exact ⟨rfl, hle, plan, plan', hplan', hplan, hlength⟩

end S7Request
