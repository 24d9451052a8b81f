/-
Sessions that stop at the first failure. Whether or not a session is to keep going, it goes the same way up to
there, whatever the emitter does; behind it the one that stops has nothing to report but how many rules are left.
Main statement: stopping is cutting the session that keeps going behind the first rule that fails in it, and where
none fails the two sessions are the same.
-/
import LineRules.Proofs.Session.Report

namespace LineRules.Session

variable {σ γ : Type} {e : Emitter σ γ} {normalize : String → String}

/-! ## The first failure -/

/-- The rule at place `i` fails with the error, and none before it fails. -/
structure FirstFailure (outs : List Outcome) (i : Nat) (err : RuleError) : Prop where
  fails : outs[i]?.bind Outcome.failure? = some err
  passed : ∀ o ∈ outs.take i, o.failure? = none

theorem exists_firstFailure {outs : List Outcome} {err : RuleError} {errs : List RuleError}
    (h : outs.filterMap Outcome.failure? = err :: errs) : ∃ i, FirstFailure outs i err := by
  obtain ⟨before, o, after, rfl, passed, fails, -⟩ := List.filterMap_eq_cons_iff.1 h
  refine ⟨before.length, ?_, ?_⟩
  · rw [List.getElem?_append_right (Nat.le_refl _), Nat.sub_self]
    exact fails
  · intro o ho
    rw [List.take_left] at ho
    exact passed o ho

theorem FirstFailure.of_error {o : Outcome} {outs : List Outcome} {i : Nat} {err err' : RuleError}
    (h : FirstFailure (o :: outs) i err) (failed : o.result = .error err') : i = 0 ∧ err = err' := by
  have failure : o.failure? = some err' := by unfold Outcome.failure?; rw [failed]
  cases i with
  | zero =>
    have fails := h.fails
    rw [List.getElem?_cons_zero, Option.bind_some, failure] at fails
    exact ⟨rfl, (Option.some.inj fails).symm⟩
  | succ i =>
    have passed := h.passed o (by simp)
    rw [failure] at passed
    cases passed

theorem FirstFailure.of_ok {o : Outcome} {outs : List Outcome} {i : Nat} {err : RuleError} {ops : List Op}
    (h : FirstFailure (o :: outs) i err) (ok : o.result = .ok ops) : ∃ j, i = j + 1 ∧ FirstFailure outs j err := by
  cases i with
  | zero =>
    have fails := h.fails
    rw [List.getElem?_cons_zero, Option.bind_some, Outcome.failure?, ok] at fails
    cases fails
  | succ i =>
    refine ⟨i, rfl, by simpa using h.fails, ?_⟩
    intro o' ho'
    exact h.passed o' (by simp [ho'])

theorem FirstFailure.lt_length {rules : List Rule} {s : σ} {i : Nat} {err : RuleError}
    (h : FirstFailure (outcomes e normalize rules s) i err) : i < rules.length := by
  obtain ⟨o, there, -⟩ := Option.bind_eq_some_iff.1 h.fails
  have := (List.getElem?_eq_some_iff.1 there).1
  rwa [← map_rule_outcomes e normalize rules s, List.length_map]

/-! ## Cutting a session -/

/-- Where no rule fails, nothing is cut. -/
theorem visit_eq_of_no_failure {rules : List Rule} {s : σ} (h : (visit e normalize true rules s).report.failures = []) :
    visit e normalize false rules s = visit e normalize true rules s := by
  induction rules generalizing s with
  | nil => rfl
  | cons rule rest ih =>
    rcases hr : (compose e normalize rule s).result with err | ops
    · rw [visit_error hr] at h
      cases h
    · rw [visit_ok hr] at h ⊢
      rw [visit_ok hr, ih h]

/-- A session that stops does so behind the first failure, in the state in which a session over the rules up to
there leaves the emitter. -/
theorem visit_firstFailure {rules : List Rule} {s : σ} {i : Nat} {err : RuleError}
    (h : FirstFailure (outcomes e normalize rules s) i err) :
    (visit e normalize false rules s).report =
        { composed := (rules.take i).map Rule.name, failures := [err], skipped := rules.length - i - 1 } ∧
      (visit e normalize false rules s).state = (visit e normalize true (rules.take (i + 1)) s).state := by
  induction rules generalizing s i with
  | nil => exact absurd h.lt_length (Nat.not_lt_zero i)
  | cons rule rest ih =>
    rw [outcomes] at h
    rcases hr : (compose e normalize rule s).result with err' | ops
    · obtain ⟨rfl, rfl⟩ := h.of_error hr
      rw [visit_error hr, List.take_succ_cons, visit_error hr]
      exact ⟨rfl, rfl⟩
    · obtain ⟨j, rfl, later⟩ := h.of_ok hr
      obtain ⟨report, state⟩ := ih later
      rw [visit_ok hr, List.take_succ_cons, List.take_succ_cons, visit_ok hr]
      constructor
      · simp only [afterSuccess, report, List.map_cons, List.length_cons, Nat.add_sub_add_right]
      · exact state

variable (e normalize)

/-- Whatever the emitter does, every rule of a session is counted once, and a session that keeps going leaves none
out. A session that stops at the first failure is the one that keeps going, if no rule fails in that; otherwise it
reports the rules before the first failing one as committed, this failure, and the rules behind it as left out, and
the emitter is as after the session that keeps going over the rules up to the failing one. -/
theorem run_stops_at_first_failure (rules : List Rule) (s : σ) :
    (∀ keepGoing, (run e normalize keepGoing rules s).report.composed.length +
      (run e normalize keepGoing rules s).report.failures.length +
      (run e normalize keepGoing rules s).report.skipped = rules.length) ∧
    (run e normalize true rules s).report.skipped = 0 ∧
    (run e normalize true rules s).report.failures = (outcomes e normalize rules s).filterMap Outcome.failure? ∧
    ((run e normalize true rules s).report.failures = [] →
      run e normalize false rules s = run e normalize true rules s) ∧
    ∀ err errs, (run e normalize true rules s).report.failures = err :: errs →
      ∃ i, FirstFailure (outcomes e normalize rules s) i err ∧ i < rules.length ∧
        (run e normalize false rules s).report =
          { composed := (rules.take i).map Rule.name, failures := [err], skipped := rules.length - i - 1 } ∧
        (run e normalize false rules s).state = (run e normalize true (rules.take (i + 1)) s).state := by
  have all := report_visit e normalize rules s
  refine ⟨fun keepGoing => tally_visit e normalize keepGoing rules s, ?_, ?_, ?_, ?_⟩
  · rw [report_run, all]
  · rw [report_run, all]
  · intro none
    unfold run
    rw [visit_eq_of_no_failure none]
  · intro err errs failed
    rw [report_run, all] at failed
    obtain ⟨i, first⟩ := exists_firstFailure failed
    obtain ⟨report, state⟩ := visit_firstFailure first
    exact ⟨i, first, first.lt_length, report, state⟩

/-- The second of three rules fails, and the third is not reached. -/
example :
    let rule (name area : String) : Rule := { name := name, actions := [.named {} area []] }
    let rules := [rule "a" "user", rule "b" "User", rule "c" "user"]
    (run Recorder.emitter NamingPolicy.snake.normalize false rules {}).report =
      { composed := ["a"], failures := [⟨"b", {}, .invalidIdentifier .option "User" "user"⟩], skipped := 1 } := by
  decide +kernel

end LineRules.Session
