/-
Composing a rule onto the recorder is all or nothing. A rule that is composed adds its plan to the
committed ones and nothing else; a rule that is not adds nothing. In either case nothing of the rule
stays behind, whatever was pending before, with one exception: a rule whose name is taken is turned
away before it begins, and then the recorder is not touched at all. That is also the only way in
which the recorder refuses a rule: what the composer has drafted is bracketed, so it is never refused
operation by operation or at its end.
-/
import LineRules.Proofs.Recorder.Brackets

namespace LineRules.Recorder

/-! ## Beginning a rule -/

theorem beginRule_ok {r r' : Recorder} {name : String} {pos : Pos} {tracker : Tracker}
    (h : r.beginRule name pos = (.ok tracker, r')) :
    r.plans.any (·.name == name) = false ∧ tracker = {} ∧
      r' = during r.plans { name := name, pos := pos, ops := [] } [] := by
  unfold beginRule at h
  split at h
  · cases h
  · rename_i hn
    cases h
    exact ⟨by simpa using hn, rfl, rfl⟩

theorem beginRule_error {r r' : Recorder} {name : String} {pos : Pos} {err : EmitError}
    (h : r.beginRule name pos = (.error err, r')) :
    r.plans.any (·.name == name) = true ∧ err = .ruleExists name ∧ r' = r := by
  unfold beginRule at h
  split at h
  · rename_i hn
    cases h
    exact ⟨hn, rfl, rfl⟩
  · cases h

theorem beginRule_free {r : Recorder} {name : String} (free : ∀ plan ∈ r.plans, plan.name ≠ name) (pos : Pos) :
    r.beginRule name pos = (.ok {}, during r.plans { name := name, pos := pos, ops := [] } []) := by
  unfold beginRule
  rw [if_neg (by simpa using free)]
  rfl

/-! ## Walking a rule -/

variable {normalize : String → String} {rule : Rule} {r r' : Recorder} {tracker : Tracker}
  {d : Draft (Tracker × Recorder)}

/-- The walk registers checkpoints and leaves the plans alone. -/
theorem recorder_of_performAll {answer : Except RuleError Unit}
    (h : (emitter.composer normalize rule).performAll (emitter.tasks normalize rule)
      (Emitter.draft tracker r') = (answer, d)) : d.tracker.2 = r' := by
  have := (emitter.composer normalize rule).performAll_tracker (R := fun t => t.2 = r')
    (fun path t ht => ht) (emitter.tasks normalize rule) (Emitter.draft tracker r') rfl
  rwa [h] at this

/-- What was drafted for a rule is committed as its plan. -/
theorem commit_of_performAll (begun : r.beginRule rule.name rule.pos = (.ok tracker, r'))
    (walked : (emitter.composer normalize rule).performAll (emitter.tasks normalize rule)
      (Emitter.draft tracker r') = (.ok (), d)) :
    emitter.commit d.ops d.tracker.2 =
      (.ok (), { plans := r.plans ++ [{ name := rule.name, pos := rule.pos, ops := d.ops }] }) := by
  obtain ⟨-, -, hr⟩ := beginRule_ok begun
  rw [recorder_of_performAll walked, hr, ops_of_performAll walked]
  exact commit_program r.plans rule.name rule.pos [] rule.actions

/-- The walk does not speak for the emitter. -/
theorem performAll_ne_rejection {err : RuleError}
    (walked : (emitter.composer normalize rule).performAll (emitter.tasks normalize rule)
      (Emitter.draft tracker r') = (.error err, d)) (e : EmitError) : err.cause ≠ .emitterRejection e := by
  obtain ⟨before, t, after, d₁, -, -, ⟨-, -, own⟩ | ⟨path, pos, e', -, rfl, -⟩⟩ :=
    (emitter.composer normalize rule).performAll_tasksAll_error walked
  · intro h
    rw [h] at own
    cases own
  · intro h
    cases h

/-! ## All or nothing -/

/-- A rule that is composed has its plan committed, and nothing else. -/
theorem compose_ok_state {ops : List Op} (h : (compose emitter normalize rule r).result = .ok ops) :
    (compose emitter normalize rule r).state =
      { plans := r.plans ++ [{ name := rule.name, pos := rule.pos, ops := ops }] } := by
  have course := compose_course emitter normalize rule r
  rw [h] at course
  generalize (compose emitter normalize rule r).state = state at course ⊢
  cases course with
  | committed begun walked committed =>
    rw [commit_of_performAll begun walked] at committed
    cases committed
    rfl

/-- Composing a rule onto the recorder commits exactly its plan and leaves nothing pending, or it
leaves the committed plans as they were. In the latter case either the name of the rule is taken and
the recorder is not touched, or nothing is pending. No other refusal of the recorder can come out of
it: the recorder takes every operation that was drafted, and then the whole rule. -/
theorem compose_atomic (normalize : String → String) (rule : Rule) (r : Recorder) :
    (match (compose emitter normalize rule r).result with
    | .ok ops =>
      (compose emitter normalize rule r).state =
        { plans := r.plans ++ [{ name := rule.name, pos := rule.pos, ops := ops }]
          pending := none
          scopes := [] }
    | .error err =>
      (compose emitter normalize rule r).state.plans = r.plans ∧
      ((err = ⟨rule.name, rule.pos, .emitterRejection (.ruleExists rule.name)⟩ ∧
          (compose emitter normalize rule r).state = r) ∨
        ((compose emitter normalize rule r).state.pending = none ∧
          (compose emitter normalize rule r).state.scopes = [])) ∧
      ∀ e, err.cause = .emitterRejection e → e = .ruleExists rule.name) ∧
    ∀ tracker r' d, r.beginRule rule.name rule.pos = (.ok tracker, r') →
      (emitter.composer normalize rule).walkAll rule.actions (Emitter.draft tracker r') = (.ok (), d) →
      (emitter.replay d.ops d.tracker.2).1 = .ok () ∧ (emitter.commit d.ops d.tracker.2).1 = .ok () := by
  refine ⟨?_, fun tracker r' d begun walked => ?_⟩
  · have hc := compose_course emitter normalize rule r
    generalize (compose emitter normalize rule r).result = result at hc ⊢
    generalize (compose emitter normalize rule r).state = state at hc ⊢
    cases hc with
    | refused begun =>
      obtain ⟨-, rfl, rfl⟩ := beginRule_error begun
      exact ⟨rfl, .inl ⟨rfl, rfl⟩, fun e he => by cases he; rfl⟩
    | rejected begun walked =>
      obtain ⟨-, -, hr⟩ := beginRule_ok begun
      refine ⟨?_, .inr ⟨rfl, rfl⟩, fun e he => absurd he (performAll_ne_rejection walked e)⟩
      show _ = r.plans
      rw [recorder_of_performAll walked, hr]
      rfl
    | dropped begun walked committed =>
      -- no plan that was drafted is ever dropped
      rw [commit_of_performAll begun walked] at committed
      cases committed
    | committed begun walked committed =>
      rw [commit_of_performAll begun walked] at committed
      cases committed
      rfl
  · rw [Composer.walkAll_eq] at walked
    have hc := commit_of_performAll begun walked
    refine ⟨?_, by rw [hc]⟩
    rw [Emitter.commit] at hc
    rcases hr : emitter.replay d.ops d.tracker.2 with ⟨err | _, s⟩
    · rw [hr] at hc
      cases hc
    · rfl

end LineRules.Recorder
