import S7Request.Proofs.Plan.Make

/-!
# Plans and their budgets

A budget is checked when a configuration is asked for it and once more when requests are packed
under it. Both checks refuse the same budgets, so a plan fails only where its configuration has no
budget, and with the error that tells so. The margin of a write is in no chunk and closes no group:
it does not matter to a plan, nor to whether there is one.
-/
namespace S7Request

variable {d : Direction} {b : Budget} {config : PlannerConfig} {e : Error}

namespace Budget

/-- A budget is too small when it leaves no payload byte beside the overhead of a chunk, and for a
read also when its margin takes all of the target. -/
theorem not_accepted_iff :
    ¬b.Accepted d ↔ b.target.toNat ≤ b.overhead.toNat ∨
      d = .read ∧ b.target.toNat ≤ b.margin.toNat := by
  rw [Accepted, UInt64.lt_iff_toNat_lt, UInt64.lt_iff_toNat_lt, not_and_or, Nat.not_lt,
    Classical.not_imp, Nat.not_lt]

/-- The margin of a write does not decide whether its budget is accepted. -/
theorem accepted_write_margin (b : Budget) (margin : UInt64) :
    ({ b with margin } : Budget).Accepted .write ↔ b.Accepted .write := by
  simp [Accepted]

/-- The margin of a write is in no chunk and closes no group. -/
theorem pack_write_margin (b : Budget) (margin : UInt64) (sizes : List UInt64) :
    pack .write sizes { b with margin } = pack .write sizes b :=
  rfl

end Budget

namespace PlannerConfig

/-- The budget that a direction is given, else the one that follows from the telegram length. -/
def asked (config : PlannerConfig) (d : Direction) : Budget :=
  (config.given d).getD (Budget.ofPduLength d config.pduLength)

theorem budget_eq_checked (config : PlannerConfig) (d : Direction) :
    config.budget d = (config.asked d).checked d := by
  unfold budget asked
  rfl

/-- A configuration has no budget when the one that it asks for is too small. -/
theorem budget_eq_error_iff :
    config.budget d = .error e ↔
      ((config.asked d).target.toNat ≤ (config.asked d).overhead.toNat ∨
          d = .read ∧ (config.asked d).target.toNat ≤ (config.asked d).margin.toNat) ∧
        e = (config.asked d).tooSmall := by
  rw [budget_eq_checked, Budget.checked_eq_error_iff, Budget.not_accepted_iff]

end PlannerConfig

namespace Plan

variable {items : List Item}

/-- A plan fails where its configuration has no budget, and nowhere else. -/
theorem make_eq_error_iff : make d config items = .error e ↔ config.budget d = .error e := by
  cases hb : config.budget d with
  | error e' =>
      have hmake : make d config items = .error e' := by
        rw [make, hb]
        rfl
      simp [hmake]
  | ok b =>
      obtain ⟨plan, hplan, -, -⟩ := exists_make hb items
      rw [hplan]
      exact iff_of_false (by simp) (by simp)

/-- A budget given for a write is accepted or refused whatever its margin, and makes the same plan
with every margin. -/
theorem make_write_margin (config : PlannerConfig) (b : Budget) (margin : UInt64)
    (items : List Item) :
    (∃ plan, make .write { config with writeBudget := some b } items = .ok plan ∧
        make .write { config with writeBudget := some { b with margin } } items = .ok plan) ∨
      make .write { config with writeBudget := some b } items = .error b.tooSmall ∧
        make .write { config with writeBudget := some { b with margin } } items =
          .error ({ b with margin } : Budget).tooSmall := by
  have hbudget : ∀ b' : Budget,
      ({ config with writeBudget := some b' } : PlannerConfig).budget .write = b'.checked .write :=
    fun _ => rfl
  by_cases hb : b.Accepted .write
  · have hb' := (Budget.accepted_write_margin b margin).2 hb
    have hchecked := Budget.checked_eq_ok_iff.2 ⟨hb, rfl⟩
    have hchecked' := Budget.checked_eq_ok_iff.2 ⟨hb', rfl⟩
    obtain ⟨plan, hplan, -, -⟩ := exists_make ((hbudget b).trans hchecked) items
    refine .inl ⟨plan, hplan, ?_⟩
    rw [make_of_budget ((hbudget _).trans hchecked'), b.pack_write_margin margin,
      ← make_of_budget ((hbudget b).trans hchecked), hplan]
  · have hb' := (Budget.accepted_write_margin b margin).not.2 hb
    refine .inr ⟨?_, ?_⟩
    · rw [make_eq_error_iff, hbudget, Budget.checked_eq_error_iff]
      exact ⟨hb, rfl⟩
    · rw [make_eq_error_iff, hbudget, Budget.checked_eq_error_iff]
      exact ⟨hb', rfl⟩

/-- A plan fails exactly when its configuration has no budget, which is when the one that it asks
for is too small, and with the same error. With a budget, packing the counts of the items under it
succeeds and gives the groups of the plan. Budgets given for a write that differ in their margin
only make the same plan, or both fail. -/
theorem make_follows_budget (config : PlannerConfig) (items : List Item) :
    (∀ d e, make d config items = .error e ↔ config.budget d = .error e) ∧
      (∀ d e, config.budget d = .error e ↔
        ((config.asked d).target.toNat ≤ (config.asked d).overhead.toNat ∨
            d = .read ∧ (config.asked d).target.toNat ≤ (config.asked d).margin.toNat) ∧
          e = (config.asked d).tooSmall) ∧
      (∀ d b, config.budget d = .ok b →
        ∃ packing plan, pack d (items.map (·.count.toUInt64)) b = .ok packing ∧
          make d config items = .ok plan ∧ plan.groups = packing.groups ∧ plan.items = items) ∧
      ∀ b margin,
        (∃ plan, make .write { config with writeBudget := some b } items = .ok plan ∧
            make .write { config with writeBudget := some { b with margin } } items = .ok plan) ∨
          make .write { config with writeBudget := some b } items = .error b.tooSmall ∧
            make .write { config with writeBudget := some { b with margin } } items =
              .error ({ b with margin } : Budget).tooSmall := by
  refine ⟨fun _ _ => make_eq_error_iff, fun _ _ => PlannerConfig.budget_eq_error_iff, ?_,
    fun b margin => make_write_margin config b margin items⟩
  intro d b hb
  obtain ⟨plan, hplan, hpack, hitems⟩ := exists_make hb items
  exact ⟨plan.packing, plan, hpack, hplan, rfl, hitems⟩

/-- A read whose margin is all of its target, and a write with one payload byte to a group. -/
theorem make_follows_budget_given :
    (PlannerConfig.mk 240 (some ⟨17, 5, 17⟩) (some ⟨18, 17, 40⟩)).budget .write =
        .ok ⟨18, 17, 40⟩ ∧
      make .read ⟨240, some ⟨17, 5, 17⟩, some ⟨18, 17, 40⟩⟩ [⟨.flags, 0, 8, 0, .byte, 2⟩] =
        .error (.budgetTooSmall 17 5 17) ∧
      ∃ packing plan, pack .write [2] ⟨18, 17, 40⟩ = .ok packing ∧
        make .write ⟨240, some ⟨17, 5, 17⟩, some ⟨18, 17, 40⟩⟩ [⟨.flags, 0, 8, 0, .byte, 2⟩] =
          .ok plan ∧
        plan.groups = packing.groups ∧ plan.items = [⟨.flags, 0, 8, 0, .byte, 2⟩] := by
  have hwrite : (PlannerConfig.mk 240 (some ⟨17, 5, 17⟩) (some ⟨18, 17, 40⟩)).budget .write =
      .ok ⟨18, 17, 40⟩ := by decide
  have hread : (PlannerConfig.mk 240 (some ⟨17, 5, 17⟩) (some ⟨18, 17, 40⟩)).budget .read =
      .error (.budgetTooSmall 17 5 17) := by decide
  obtain ⟨hfails, -, hgroups, -⟩ :=
    make_follows_budget ⟨240, some ⟨17, 5, 17⟩, some ⟨18, 17, 40⟩⟩ [⟨.flags, 0, 8, 0, .byte, 2⟩]
  exact ⟨hwrite, (hfails .read _).2 hread, hgroups .write _ hwrite⟩

end Plan

end S7Request
