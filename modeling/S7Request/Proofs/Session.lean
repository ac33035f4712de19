import S7Request.Proofs.Address.Resolve
import S7Request.Proofs.Item.Obtainable
import S7Request.Proofs.Plan.Make
import S7Request.Session

/-!
# Runs of sessions

A command that fails leaves the session as it was, so a run without its failing commands has the
outcomes of the others. Whatever a session is told to do, its items are valid, and its plans are
made of valid items.
-/
namespace S7Request.Session

variable {s : Session} {c : Command} {d : Direction} {failure : Failure}

section Failures

theorem session_append_of_error {item : Except Error Item} {events : List Event}
    (h : (s.append item events).reply = .error failure) : (s.append item events).session = s := by
  cases item with
  | ok item => contradiction
  | error e => rfl

@[simp] theorem session_answerResult {α : Type} (s : Session) (result : Except Error α)
    (reply : α → Reply) : (s.answerResult result reply).session = s := by
  cases result <;> rfl

theorem perform_plan_of_error {e : Error} (h : Plan.make d s.config s.items = .error e) :
    s.perform (.plan d) = s.fail (.error e) := by
  cases d <;> simp only [perform, h]

theorem reply_plan_of_ok {plan : Plan d} (h : Plan.make d s.config s.items = .ok plan) :
    (s.perform (.plan d)).reply = .ok (.groups plan.groups) := by
  cases d <;> simp only [perform, h]

/-- A command that fails leaves the session as it was. -/
theorem session_of_error (h : (s.perform c).reply = .error failure) :
    (s.perform c).session = s := by
  cases c with
  | usePolicy | clear | usePduLength => contradiction
  | useBudget d => cases d <;> contradiction
  | items => rfl
  | add | addFields => exact session_append_of_error h
  | slice index =>
      cases hitem : s.items[index]? with
      | none => simp only [perform, hitem, fail]
      | some item =>
          simp only [perform, hitem] at h ⊢
          exact session_append_of_error h
  | same first second =>
      simp only [perform]
      split <;> rfl
  | areaText | planItems | planRequests | merge | split =>
      simp only [perform]
      split
      · simp [answer]
      · rfl
  | plan d =>
      cases hplan : Plan.make d s.config s.items with
      | ok plan =>
          rw [reply_plan_of_ok hplan] at h
          contradiction
      | error e => rw [perform_plan_of_error hplan, fail]

def Outcome.isOk (o : Outcome) : Bool :=
  o.reply.isOk

/-- The commands of a run that do not fail. -/
def succeeding (s : Session) : List Command → List Command
  | [] => []
  | c :: rest =>
      if (s.perform c).isOk then c :: succeeding (s.perform c).session rest
      else succeeding s rest

/-- Without the commands that fail a run has the outcomes of the others. -/
theorem run_succeeding (s : Session) (cs : List Command) :
    s.run (s.succeeding cs) = (s.run cs).filter Outcome.isOk := by
  induction cs generalizing s with
  | nil => rfl
  | cons c cs ih =>
      by_cases hok : (s.perform c).isOk = true
      · rw [succeeding, if_pos hok, run, run, List.filter_cons_of_pos hok, ih]
      · have hfailed : ∃ failure, (s.perform c).reply = .error failure := by
          cases hreply : (s.perform c).reply with
          | ok reply => exact absurd (congrArg Except.isOk hreply) hok
          | error failure => exact ⟨failure, rfl⟩
        obtain ⟨failure, hfailure⟩ := hfailed
        rw [succeeding, if_neg hok, run, List.filter_cons_of_neg hok, session_of_error hfailure, ih]

end Failures

section Contents

/-- A plan that was made of valid items. -/
def MadeOfValid {d : Direction} (plan : Plan d) : Prop :=
  (∀ item ∈ plan.items, item.Valid) ∧ ∃ config, Plan.make d config plan.items = .ok plan

/-- A session of valid items and of plans of such items. -/
structure Sound (s : Session) : Prop where
  items_valid : ∀ item ∈ s.items, item.Valid
  readPlan_made : ∀ plan ∈ s.readPlan, MadeOfValid plan
  writePlan_made : ∀ plan ∈ s.writePlan, MadeOfValid plan

theorem sound_initial : initial.Sound :=
  ⟨by simp [initial], by simp [initial], by simp [initial]⟩

theorem Sound.append (h : s.Sound) {item : Except Error Item} (events : List Event)
    (hitem : ∀ i, item = .ok i → i.Valid) : (s.append item events).session.Sound := by
  cases item with
  | error e => exact h
  | ok item =>
      refine ⟨fun i hi => ?_, h.readPlan_made, h.writePlan_made⟩
      obtain hi | hi := List.mem_append.1 hi
      · exact h.items_valid i hi
      · obtain rfl := List.mem_singleton.1 hi
        exact hitem i rfl

theorem Sound.madeOfValid (h : s.Sound) {plan : Plan d}
    (hplan : Plan.make d s.config s.items = .ok plan) : MadeOfValid plan := by
  obtain ⟨-, -, -, hitems⟩ := Plan.make_eq_ok_iff.1 hplan
  rw [MadeOfValid, hitems]
  exact ⟨h.items_valid, s.config, hplan⟩

theorem Sound.plan (h : s.Sound) {plan : Plan d}
    (hplan : Plan.make d s.config s.items = .ok plan) : (s.perform (.plan d)).session.Sound := by
  have hmade := h.madeOfValid hplan
  cases d with
  | read =>
      simp only [Session.perform, hplan]
      exact ⟨h.items_valid, by simpa using hmade, h.writePlan_made⟩
  | write =>
      simp only [Session.perform, hplan]
      exact ⟨h.items_valid, h.readPlan_made, by simpa using hmade⟩

/-- What a session is told to do keeps its items and its plans valid. -/
theorem Sound.perform (h : s.Sound) (c : Command) : (s.perform c).session.Sound := by
  cases c with
  | usePolicy | usePduLength => exact ⟨h.items_valid, h.readPlan_made, h.writePlan_made⟩
  | useBudget d => cases d <;> exact ⟨h.items_valid, h.readPlan_made, h.writePlan_made⟩
  | items => exact h
  | clear => exact ⟨by simp [Session.perform], h.readPlan_made, h.writePlan_made⟩
  | add => exact h.append _ fun _ hitem => Grammar.valid_of_resolve hitem
  | addFields => exact h.append _ fun _ hitem => Item.valid_of_make hitem
  | slice index =>
      cases hitem : s.items[index]? with
      | none => simpa only [Session.perform, hitem, fail] using h
      | some item =>
          have hvalid := h.items_valid item (List.mem_of_getElem? hitem)
          simp only [Session.perform, hitem]
          exact h.append _ fun _ hslice => hvalid.of_slice hslice
  | same first second =>
      simp only [Session.perform]
      split <;> exact h
  | areaText | planItems | planRequests | merge | split =>
      simp only [Session.perform]
      split
      · simpa [answer] using h
      · exact h
  | plan d =>
      cases hplan : Plan.make d s.config s.items with
      | ok plan => exact h.plan hplan
      | error e => rwa [perform_plan_of_error hplan, fail]

/-- After every command of a run the items and the plans are valid. -/
theorem Sound.run (h : s.Sound) (cs : List Command) : ∀ o ∈ s.run cs, o.session.Sound := by
  induction cs generalizing s with
  | nil => simp [Session.run]
  | cons c cs ih =>
      rw [Session.run, List.forall_mem_cons]
      exact ⟨h.perform c, ih (h.perform c)⟩

end Contents

end S7Request.Session
