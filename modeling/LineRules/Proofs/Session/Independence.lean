/-
The rules of a session do not interfere. The rules share one recorder, which changes from rule to rule;
still each of them comes to what it would come to on a recorder of its own, unless its name is taken.
Only committed rules take names: a rule that fails leaves nothing behind, not even its name. Main
statement: what becomes of every rule, the committed plans and the report are told by composing each
rule alone and looking at the names of the rules committed before it.
-/
import LineRules.Proofs.Recorder.Atomicity
import LineRules.Session

namespace LineRules

/-! ## Outcomes -/

namespace Session

/-- A rule and what it comes to in a session. -/
structure Outcome where
  rule : Rule
  result : Except RuleError (List Op)

namespace Outcome

/-- The rule, if it was committed. -/
def committed? (o : Outcome) : Option Rule :=
  match o.result with
  | .ok _ => some o.rule
  | .error _ => none

/-- The error with which the rule failed. -/
def failure? (o : Outcome) : Option RuleError :=
  match o.result with
  | .ok _ => none
  | .error err => some err

end Outcome

variable {σ γ : Type} (e : Emitter σ γ) (normalize : String → String)

/-- The outcomes of rules in order, each composed in the state in which the rules before it have left the
emitter. -/
def outcomes : List Rule → σ → List Outcome
  | [], _ => []
  | rule :: rest, s =>
    ⟨rule, (compose e normalize rule s).result⟩ :: outcomes rest (compose e normalize rule s).state

theorem map_rule_outcomes (rules : List Rule) (s : σ) : (outcomes e normalize rules s).map Outcome.rule = rules := by
  induction rules generalizing s with
  | nil => rfl
  | cons rule rest ih => rw [outcomes, List.map_cons, ih]

/-- A session that keeps going reports every outcome. -/
theorem report_visit (rules : List Rule) (s : σ) :
    (visit e normalize true rules s).report =
      { composed := ((outcomes e normalize rules s).filterMap Outcome.committed?).map Rule.name
        failures := (outcomes e normalize rules s).filterMap Outcome.failure?
        skipped := 0 } := by
  induction rules generalizing s with
  | nil => rfl
  | cons rule rest ih =>
    simp only [visit, outcomes, List.filterMap_cons, Outcome.committed?, Outcome.failure?]
    cases (compose e normalize rule s).result with
    | ok ops => simp only [afterSuccess, ih, List.map_cons]
    | error err => simp only [if_true, afterFailure, ih]

end Session

/-! ## One rule -/

namespace Recorder

variable {normalize : String → String} {rule : Rule} {r r₁ r₂ : Recorder}

theorem beginRule_taken (h : ∃ plan ∈ r.plans, plan.name = rule.name) :
    r.beginRule rule.name rule.pos = (.error (.ruleExists rule.name), r) := by
  rw [beginRule, if_pos (by simpa using h)]

/-- The walk over a rule does not depend on what the recorder holds. -/
theorem performAll_recorder {tracker : Tracker} {answer : Except RuleError Unit} {d : Draft (Tracker × Recorder)}
    (h : (emitter.composer normalize rule).performAll (emitter.tasks normalize rule)
      (Emitter.draft tracker r) = (answer, d)) (r' : Recorder) :
    (emitter.composer normalize rule).performAll (emitter.tasks normalize rule) (Emitter.draft tracker r') =
      (answer, d.mapTracker fun t => (t.1, r')) := by
  have mirrors : Composer.Mirrors (fun t : Tracker × Recorder => (t.1, r')) (emitter.composer normalize rule)
      (emitter.composer normalize rule) := ⟨rfl, rfl, fun _ _ => rfl⟩
  have hp := mirrors.performAll (emitter.tasks normalize rule) (Emitter.draft tracker r)
  rw [h] at hp
  exact hp

/-- A rule whose name is taken is turned away. -/
theorem compose_taken (normalize : String → String) (h : ∃ plan ∈ r.plans, plan.name = rule.name) :
    (compose emitter normalize rule r).result =
        .error ⟨rule.name, rule.pos, .emitterRejection (.ruleExists rule.name)⟩ ∧
      (compose emitter normalize rule r).state = r :=
  Course.eq (.refused (beginRule_taken h))

/-- A rule that fails leaves the committed plans as they are. -/
theorem compose_error_plans {err : RuleError} (h : (compose emitter normalize rule r).result = .error err) :
    (compose emitter normalize rule r).state.plans = r.plans := by
  have course := compose_course emitter normalize rule r
  rw [h] at course
  generalize (compose emitter normalize rule r).state = state at course ⊢
  cases course with
  | refused begun =>
    obtain ⟨-, -, rfl⟩ := beginRule_error begun
    rfl
  | rejected begun walked =>
    obtain ⟨-, -, hr⟩ := beginRule_ok begun
    show _ = r.plans
    rw [recorder_of_performAll walked, hr]
    rfl
  | dropped begun walked committed =>
    rw [commit_of_performAll begun walked] at committed
    cases committed

/-- Wherever its name is free, a rule comes to the same. -/
theorem compose_free (h₁ : ¬ ∃ plan ∈ r₁.plans, plan.name = rule.name)
    (h₂ : ¬ ∃ plan ∈ r₂.plans, plan.name = rule.name) :
    (compose emitter normalize rule r₁).result = (compose emitter normalize rule r₂).result := by
  have free : ∀ plan ∈ r₁.plans, plan.name ≠ rule.name := by simpa using h₁
  have begun₁ := beginRule_free free rule.pos
  have course := compose_course emitter normalize rule r₂
  generalize (compose emitter normalize rule r₂).result = result at course ⊢
  generalize (compose emitter normalize rule r₂).state = state at course
  -- one recorder lets the rule begin, walks it and commits it as the other does
  cases course with
  | refused begun₂ =>
    obtain ⟨taken, -, -⟩ := beginRule_error begun₂
    exact absurd (by simpa using taken) h₂
  | rejected begun₂ walked =>
    obtain ⟨-, rfl, -⟩ := beginRule_ok begun₂
    exact (Course.eq (.rejected begun₁ (performAll_recorder walked _))).1
  | dropped begun₂ walked committed =>
    rw [commit_of_performAll begun₂ walked] at committed
    cases committed
  | committed begun₂ walked committed =>
    obtain ⟨-, rfl, -⟩ := beginRule_ok begun₂
    have walked₁ := performAll_recorder walked
      (during r₁.plans { name := rule.name, pos := rule.pos, ops := [] } [])
    exact (Course.eq (.committed begun₁ walked₁ (commit_of_performAll begun₁ walked₁))).1

end Recorder

/-! ## Rules of a session -/

namespace Session

open Recorder

/-- A plan held before the session has the name, or a rule committed in it so far. -/
def Taken (r : Recorder) (before : List Outcome) (name : String) : Prop :=
  (∃ plan ∈ r.plans, plan.name = name) ∨ ∃ rule ∈ before.filterMap Outcome.committed?, rule.name = name

variable (normalize : String → String) {rule : Rule} {r : Recorder}

/-- The names taken after a rule are those before it and, if it was committed, its own. -/
theorem taken_cons {before : List Outcome} {name : String} :
    Taken r (⟨rule, (compose emitter normalize rule r).result⟩ :: before) name ↔
      Taken (compose emitter normalize rule r).state before name := by
  simp only [Taken, List.filterMap_cons, Outcome.committed?]
  rcases h : (compose emitter normalize rule r).result with err | ops
  · rw [compose_error_plans h]
  · simp [compose_ok_state h, or_and_right, exists_or, or_assoc]

theorem outcome_eq {rules : List Rule} {before after : List Outcome} {o : Outcome}
    (h : outcomes emitter normalize rules r = before ++ o :: after) :
    (Taken r before o.rule.name →
      o.result = .error ⟨o.rule.name, o.rule.pos, .emitterRejection (.ruleExists o.rule.name)⟩) ∧
    (¬ Taken r before o.rule.name → o.result = (compose emitter normalize o.rule {}).result) := by
  induction rules generalizing r before with
  | nil => simp [outcomes] at h
  | cons rule rest ih =>
    rw [outcomes] at h
    cases before with
    | nil =>
      obtain ⟨rfl, -⟩ := List.cons.inj h
      simp only [Taken, List.filterMap_nil, List.not_mem_nil, false_and, exists_false, or_false]
      exact ⟨fun taken => (compose_taken normalize taken).1, fun free => compose_free free (by simp)⟩
    | cons first before =>
      obtain ⟨rfl, hrest⟩ := List.cons.inj h
      rw [taken_cons]
      exact ih hrest

/-- A committed outcome is that of the rule alone, whose plan is all that a new recorder holds then. -/
theorem plans_alone {rules : List Rule} {before after : List Outcome} {o : Outcome} {ops : List Op}
    (h : outcomes emitter normalize rules r = before ++ o :: after) (ok : o.result = .ok ops) :
    (compose emitter normalize o.rule {}).result = .ok ops ∧
      (compose emitter normalize o.rule {}).state.plans =
        [{ name := o.rule.name, pos := o.rule.pos, ops := ops }] := by
  obtain ⟨taken, free⟩ := outcome_eq normalize h
  have alone : (compose emitter normalize o.rule {}).result = .ok ops := by
    by_cases ht : Taken r before o.rule.name
    · rw [taken ht] at ok
      cases ok
    · rw [← free ht, ok]
  exact ⟨alone, by rw [compose_ok_state alone]; rfl⟩

/-- The plans that a session commits are those of the committed rules, each composed alone. -/
theorem plans_visit (rules : List Rule) (r : Recorder) :
    (visit emitter normalize true rules r).state.plans =
      r.plans ++ ((outcomes emitter normalize rules r).filterMap Outcome.committed?).flatMap fun rule =>
        (compose emitter normalize rule {}).state.plans := by
  induction rules generalizing r with
  | nil => simp [visit, outcomes]
  | cons rule rest ih =>
    have first : outcomes emitter normalize (rule :: rest) r = [] ++ _ :: _ := rfl
    simp only [visit, outcomes, List.filterMap_cons, Outcome.committed?]
    rcases h : (compose emitter normalize rule r).result with err | ops
    · simp only [if_true, afterFailure, ih, compose_error_plans h]
    · have alone := (plans_alone normalize first h).2
      simp only [afterSuccess, ih, compose_ok_state h, List.flatMap_cons, alone, List.append_assoc]

/-- In a session that keeps going, whatever the recorder holds at its start: a rule is committed exactly
if it is composed on a new recorder and its name is not taken, by a plan held at the start or by a rule
committed before; its plan is then the one it gets on a new recorder. Of the other rules, one whose name
is taken fails for that reason, and any other as it does on a new recorder. The committed plans and the
report follow, in the order of the rules. -/
theorem run_rules_independent (rules : List Rule) (r : Recorder) :
    (outcomes emitter normalize rules r).map Outcome.rule = rules ∧
    (∀ before o after, outcomes emitter normalize rules r = before ++ o :: after →
      ((∃ ops, o.result = .ok ops) ↔
        (∃ ops, (compose emitter normalize o.rule {}).result = .ok ops) ∧ ¬ Taken r before o.rule.name) ∧
      (∀ ops, o.result = .ok ops →
        (compose emitter normalize o.rule {}).state.plans =
          [{ name := o.rule.name, pos := o.rule.pos, ops := ops }]) ∧
      (Taken r before o.rule.name →
        o.result = .error ⟨o.rule.name, o.rule.pos, .emitterRejection (.ruleExists o.rule.name)⟩) ∧
      (¬ Taken r before o.rule.name → o.result = (compose emitter normalize o.rule {}).result)) ∧
    (run emitter normalize true rules r).state.plans =
      r.plans ++ ((outcomes emitter normalize rules r).filterMap Outcome.committed?).flatMap (fun rule =>
        (compose emitter normalize rule {}).state.plans) ∧
    (run emitter normalize true rules r).report =
      { composed := ((outcomes emitter normalize rules r).filterMap Outcome.committed?).map Rule.name
        failures := (outcomes emitter normalize rules r).filterMap Outcome.failure?
        skipped := 0 } := by
  refine ⟨map_rule_outcomes emitter normalize rules r, fun before o after h => ?_,
    plans_visit normalize rules r, report_visit emitter normalize rules r⟩
  obtain ⟨taken, free⟩ := outcome_eq normalize h
  refine ⟨⟨?_, ?_⟩, fun ops ok => (plans_alone normalize h ok).2, taken, free⟩
  · rintro ⟨ops, ok⟩
    refine ⟨⟨ops, (plans_alone normalize h ok).1⟩, fun ht => ?_⟩
    rw [taken ht] at ok
    cases ok
  · rintro ⟨⟨ops, alone⟩, ht⟩
    exact ⟨ops, by rw [free ht, alone]⟩

/-- The name of a rule that failed is free for the next one, and that of a committed rule is not. -/
example :
    let misnamed : Rule := { name := "access", actions := [.named {} "User" []] }
    let rule : Rule := { name := "access", actions := [.step {} .atEnd] }
    (run emitter NamingPolicy.snake.normalize true [misnamed, rule, rule] {}).report =
      { composed := ["access"]
        failures := [
          ⟨"access", {}, .invalidIdentifier .option "User" "user"⟩,
          ⟨"access", {}, .emitterRejection (.ruleExists "access")⟩] } := by
  decide +kernel

end Session

end LineRules
