import S7Request.Plan.Basic
import S7Request.Proofs.Packing.Partition

/-!
# Making plans

A plan is made whenever the budget of its direction is accepted, by packing the counts of its items
under that budget. The packer checks the budget once more, and accepts and refuses the same ones.
-/
namespace S7Request

variable {d : Direction} {b : Budget} {config : PlannerConfig}

theorem Budget.checked_eq_ok_iff {b' : Budget} :
    b.checked d = .ok b' ↔ b.Accepted d ∧ b' = b := by
  unfold Budget.checked
  split
  · rename_i h
    rw [Except.ok.injEq]
    exact ⟨fun e => ⟨h, e.symm⟩, fun e => e.2.symm⟩
  · rename_i h
    simp [h]

theorem Budget.checked_eq_error_iff {e : Error} :
    b.checked d = .error e ↔ ¬b.Accepted d ∧ e = b.tooSmall := by
  unfold Budget.checked
  split
  · rename_i h
    simp [h]
  · rename_i h
    simp [h, eq_comm]

/-- The packer accepts the budgets that are accepted before it is called. -/
theorem exists_pack_iff_checked {sizes : List UInt64} :
    (∃ packing, pack d sizes b = .ok packing) ↔ b.checked d = .ok b := by
  rw [Budget.checked_eq_ok_iff, and_iff_left rfl]
  constructor
  · rintro ⟨packing, hpack⟩
    exact (pack_eq_ok_iff.1 hpack).1
  · intro h
    exact ⟨_, pack_of_accepted h sizes⟩

/-- The packer refuses a budget with the same error, as long as a write has no margin. -/
theorem pack_eq_error_iff_checked {sizes : List UInt64} {e : Error}
    (hmargin : d = .write → b.margin = 0) :
    pack d sizes b = .error e ↔ b.checked d = .error e := by
  by_cases h : b.Accepted d
  · rw [pack_of_accepted h, Budget.checked_eq_error_iff]
    exact iff_of_false (by simp) fun hrefused => hrefused.1 h
  · have hshown : (if d = .read then b.margin else 0) = b.margin := by
      cases d with
      | read => rfl
      | write => exact (hmargin rfl).symm
    rw [pack_of_not_accepted h, Budget.checked_eq_error_iff, hshown, Budget.tooSmall]
    simp [h, eq_comm]

theorem PlannerConfig.accepted_of_budget (h : config.budget d = .ok b) : b.Accepted d := by
  obtain ⟨hb, rfl⟩ := Budget.checked_eq_ok_iff.1 h
  exact hb

namespace Plan

def sizes (items : List Item) : List UInt64 :=
  items.map (·.count.toUInt64)

theorem make_of_budget (h : config.budget d = .ok b) (items : List Item) :
    make d config items = (pack d (sizes items) b).map fun packing => ⟨packing, items⟩ := by
  rw [make, h]
  rfl

theorem make_eq_ok_iff {items : List Item} {plan : Plan d} :
    make d config items = .ok plan ↔
      ∃ b, config.budget d = .ok b ∧ pack d (sizes items) b = .ok plan.packing ∧
        plan.items = items := by
  obtain ⟨packing, items'⟩ := plan
  cases hb : config.budget d with
  | error e =>
      have : make d config items = .error e := by rw [make, hb]; rfl
      simp [this]
  | ok b =>
      have hpack := pack_of_accepted (PlannerConfig.accepted_of_budget hb) (sizes items)
      rw [make_of_budget hb, hpack]
      simp [Except.map, hpack, eq_comm]

/-- An accepted budget makes a plan of any items. -/
theorem exists_make (h : config.budget d = .ok b) (items : List Item) :
    ∃ plan, make d config items = .ok plan ∧ pack d (sizes items) b = .ok plan.packing ∧
      plan.items = items := by
  have hpack := pack_of_accepted (PlannerConfig.accepted_of_budget h) (sizes items)
  exact ⟨_, by rw [make_of_budget h, hpack]; rfl, hpack, rfl⟩

end Plan

end S7Request
