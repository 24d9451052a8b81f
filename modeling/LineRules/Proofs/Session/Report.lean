/-
What a session reports. Every rule is counted once, as committed, as failed or as not reached, and the rules that
are reported as committed are those whose plans the recorder has got. So the report has no failure exactly if the
recorder has got the plan of every rule, whether or not the session was to keep going.
-/
import LineRules.Proofs.Session.Independence
import Mathlib.Data.List.Forall2

namespace LineRules.Session

/-! ## Counting rules -/

section

variable {σ γ : Type} {e : Emitter σ γ} {normalize : String → String} {keepGoing : Bool} {rule : Rule}
  {rest : List Rule} {s : σ}

theorem visit_ok {ops : List Op} (h : (compose e normalize rule s).result = .ok ops) :
    visit e normalize keepGoing (rule :: rest) s =
      afterSuccess rule.name (compose e normalize rule s).journal
        (visit e normalize keepGoing rest (compose e normalize rule s).state) := by
  rw [visit, h]

theorem visit_error {err : RuleError} (h : (compose e normalize rule s).result = .error err) :
    visit e normalize keepGoing (rule :: rest) s =
      if keepGoing then
        afterFailure err ((compose e normalize rule s).journal ++ [.failed rule.name err])
          (visit e normalize keepGoing rest (compose e normalize rule s).state)
      else
        { report := { failures := [err], skipped := rest.length }
          state := (compose e normalize rule s).state
          journal := (compose e normalize rule s).journal ++ [.failed rule.name err] } := by
  rw [visit, h]

variable (e normalize keepGoing)

theorem report_run (rules : List Rule) (s : σ) :
    (run e normalize keepGoing rules s).report = (visit e normalize keepGoing rules s).report := rfl

theorem state_run (rules : List Rule) (s : σ) :
    (run e normalize keepGoing rules s).state = (visit e normalize keepGoing rules s).state := rfl

/-- Every rule is committed, fails or is not reached. -/
theorem tally_visit (rules : List Rule) (s : σ) :
    (visit e normalize keepGoing rules s).report.composed.length +
        (visit e normalize keepGoing rules s).report.failures.length +
        (visit e normalize keepGoing rules s).report.skipped = rules.length := by
  induction rules generalizing s with
  | nil => rfl
  | cons rule rest ih =>
    have later := ih (compose e normalize rule s).state
    rcases h : (compose e normalize rule s).result with err | ops
    · rw [visit_error h]
      cases keepGoing with
      | true =>
        simp only [if_true, afterFailure, List.length_cons]
        omega
      | false =>
        simp only [Bool.false_eq_true, if_false, List.length_nil, List.length_cons]
        omega
    · rw [visit_ok h]
      simp only [afterSuccess, List.length_cons]
      omega

/-- Rules are left out only after a failure. -/
theorem skipped_visit (rules : List Rule) (s : σ) (h : (visit e normalize keepGoing rules s).report.failures = []) :
    (visit e normalize keepGoing rules s).report.skipped = 0 := by
  induction rules generalizing s with
  | nil => rfl
  | cons rule rest ih =>
    rcases hr : (compose e normalize rule s).result with err | ops
    · rw [visit_error hr] at h
      cases keepGoing <;> cases h
    · rw [visit_ok hr] at h ⊢
      exact ih _ h

end

/-! ## Plans and names -/

open Recorder

variable (normalize : String → String) (keepGoing : Bool)

/-- The plan is the one that the rule gets on a new recorder. -/
def PlanOf (rule : Rule) (plan : Plan) : Prop :=
  ∃ ops, (compose emitter normalize rule {}).result = .ok ops ∧
    plan = { name := rule.name, pos := rule.pos, ops := ops }

theorem names_of_plans {rules : List Rule} {plans : List Plan} (h : List.Forall₂ (PlanOf normalize) rules plans) :
    plans.map Plan.name = rules.map Rule.name := by
  induction h with
  | nil => rfl
  | cons first _ ih =>
    obtain ⟨ops, -, rfl⟩ := first
    rw [List.map_cons, List.map_cons, ih]

/-- The plans that a session adds are those of the rules that it reports as committed. -/
theorem visit_plans (rules : List Rule) (r : Recorder) :
    ∃ committed plans, committed.Sublist rules ∧ List.Forall₂ (PlanOf normalize) committed plans ∧
      (visit emitter normalize keepGoing rules r).state.plans = r.plans ++ plans ∧
      (visit emitter normalize keepGoing rules r).report.composed = committed.map Rule.name := by
  induction rules generalizing r with
  | nil => exact ⟨[], [], .slnil, .nil, (List.append_nil _).symm, rfl⟩
  | cons rule rest ih =>
    obtain ⟨committed, plans, sub, each, held, composed⟩ := ih (compose emitter normalize rule r).state
    rcases h : (compose emitter normalize rule r).result with err | ops
    · rw [visit_error h]
      cases keepGoing with
      | true => exact ⟨committed, plans, sub.cons rule, each, held.trans (by rw [compose_error_plans h]), composed⟩
      | false => exact ⟨[], [], List.nil_sublist _, .nil, by simp [compose_error_plans h], rfl⟩
    · have first : outcomes emitter normalize (rule :: rest) r = [] ++ _ :: _ := rfl
      have alone := (plans_alone normalize first h).1
      rw [visit_ok h]
      refine ⟨rule :: committed, _ :: plans, sub.cons_cons rule, .cons ⟨ops, alone, rfl⟩ each, ?_, ?_⟩
      · refine held.trans ?_
        rw [compose_ok_state h, List.append_assoc, List.singleton_append]
      · rw [List.map_cons, ← composed]
        rfl

/-- The names in the report are those of the committed plans. -/
theorem composed_run (rules : List Rule) :
    (run emitter normalize keepGoing rules {}).report.composed =
      (run emitter normalize keepGoing rules {}).state.plans.map Plan.name := by
  obtain ⟨committed, plans, -, each, held, composed⟩ := visit_plans normalize keepGoing rules {}
  rw [report_run, state_run, held, composed, List.nil_append, names_of_plans normalize each]

/-- No failure is reported exactly if every rule got its plan. -/
theorem isOk_run_iff (rules : List Rule) :
    (run emitter normalize keepGoing rules {}).report.isOk = true ↔
      List.Forall₂ (PlanOf normalize) rules (run emitter normalize keepGoing rules {}).state.plans := by
  obtain ⟨committed, plans, sub, each, held, composed⟩ := visit_plans normalize keepGoing rules {}
  have tally := tally_visit emitter normalize keepGoing rules {}
  have counted : committed.length = (visit emitter normalize keepGoing rules {}).report.composed.length := by
    rw [composed, List.length_map]
  rw [report_run, state_run, Report.isOk, List.isEmpty_iff, held, List.nil_append]
  constructor
  · intro none
    have reached := skipped_visit emitter normalize keepGoing rules {} none
    rw [none, reached] at tally
    have all : committed = rules := sub.eq_of_length (by simpa [counted] using tally)
    rwa [← all]
  · intro every
    have : committed.length = rules.length := each.length_eq.trans every.length_eq.symm
    exact List.length_eq_zero_iff.1 (by omega)

end LineRules.Session
