/-
What holds of a recorder however it is called. The calls may come in any order, with any arguments, and
go on after refusals: a rule may begin inside another, scopes may be closed that were never opened, a
rule may be finished twice. Still the committed plans have names of their own and are bracketed, and the
scopes are those left open by what is pending. What a call can do to a recorder is said once, as a change
of one of five kinds; the invariant is kept by every change, and so by every run.
-/
import LineRules.Proofs.Compose.Calls
import LineRules.Proofs.Recorder.Atomicity

namespace LineRules

/-! ## Runs of an emitter -/

variable {σ γ : Type}

/-- A call to an emitter: the state that it finds, the call with its answer, and the state that it
leaves. A checkpoint is registered with any tracker. The methods of operations are called with any
arguments, since any arguments are the fields of an operation. -/
inductive Emitter.Step (e : Emitter σ γ) : σ → Exchange → σ → Prop
  | beginRule (name : String) (pos : Pos) (s : σ) :
    Step e s (.of (.beginRule name pos) (e.beginRule name pos s).1) (e.beginRule name pos s).2
  | register (path : String) (tracker : γ) (s : σ) :
    Step e s (.of (.register path) (e.register path (tracker, s)).1) (e.register path (tracker, s)).2.2
  | perform (op : Op) (s : σ) : Step e s (.of (.perform op) (e.perform op s).1) (e.perform op s).2
  | finishRule (s : σ) : Step e s (.of .finishRule (e.finishRule s).1) (e.finishRule s).2
  | abandonRule (s : σ) : Step e s { call := .abandonRule } (e.abandonRule s)

/-- Calls one after another, whatever the answers. -/
inductive Emitter.Run (e : Emitter σ γ) : σ → List Exchange → σ → Prop
  | nil (s : σ) : Run e s [] s
  | cons {s s' s'' : σ} {x : Exchange} {xs : List Exchange} (step : e.Step s x s') (run : Run e s' xs s'') :
    Run e s (x :: xs) s''

namespace Recorder

/-! ## Changes -/

/-- What a call can do to a recorder. -/
inductive Change (r : Recorder) : Recorder → Prop
  /-- The call is refused, or there is nothing for it to do. -/
  | nothing : Change r r
  /-- A rule begins under a name that is free. What was pending is forgotten. -/
  | begun (name : String) (pos : Pos) (free : ∀ plan ∈ r.plans, plan.name ≠ name) :
    Change r (during r.plans { name := name, pos := pos, ops := [] } [])
  /-- An operation that keeps the brackets right is recorded. -/
  | recorded (plan : Plan) (op : Op) (scopes : List ScopeKind) (pending : r.pending = some plan)
    (bracketed : op.scopesAfter r.scopes = some scopes) :
    Change r (during r.plans { plan with ops := plan.ops ++ [op] } scopes)
  /-- What is pending becomes a committed plan, once its scopes are closed. -/
  | committed (plan : Plan) (pending : r.pending = some plan) (closed : r.scopes = []) :
    Change r { plans := r.plans ++ [plan] }
  /-- What is pending is forgotten. -/
  | abandoned : Change r { plans := r.plans }

variable {r r' : Recorder}

theorem change_beginRule (name : String) (pos : Pos) (r : Recorder) : Change r (r.beginRule name pos).2 := by
  unfold beginRule
  split
  · exact .nothing
  · rename_i taken
    exact .begun name pos (by simpa using taken)

/-- With nothing pending, every operation is lost, whether it is refused or not. -/
theorem perform_idle (plans : List Plan) (op : Op) :
    (emitter.perform op { plans := plans }).2 = { plans := plans } := by
  rw [perform_eq]
  cases op.role with
  | mark => rfl
  | capture => rfl
  | opens kind => rfl
  | closes kind => rfl

theorem change_perform (idle : r.pending = none → r.scopes = []) (op : Op) : Change r (emitter.perform op r).2 := by
  obtain ⟨plans, _ | plan, scopes⟩ := r
  · obtain rfl : scopes = [] := idle rfl
    rw [perform_idle]
    exact .nothing
  · rw [show (⟨plans, some plan, scopes⟩ : Recorder) = during plans plan scopes from rfl, perform_during]
    split
    · rename_i after bracketed
      exact .recorded plan op after rfl bracketed
    · exact .nothing

theorem change_finishRule (idle : r.pending = none → r.scopes = []) : Change r r.finishRule.2 := by
  obtain ⟨plans, pending, _ | ⟨kind, scopes⟩⟩ := r
  · cases pending with
    | none => exact .nothing
    | some plan => exact .committed plan rfl rfl
  · exact .nothing

/-- Every call makes one of the changes, if no scope is open while nothing is pending. -/
theorem change_of_step {x : Exchange} (idle : r.pending = none → r.scopes = []) (h : emitter.Step r x r') :
    Change r r' := by
  cases h with
  | beginRule name pos => exact change_beginRule name pos r
  | register path tracker => exact .nothing
  | perform op => exact change_perform idle op
  | finishRule => exact change_finishRule idle
  | abandonRule => exact .abandoned

/-- A change leaves the committed plans as they are, or adds one to them. -/
theorem Change.plans (h : Change r r') : r'.plans = r.plans ∨ ∃ plan, r'.plans = r.plans ++ [plan] := by
  cases h with
  | committed plan pending closed => exact .inr ⟨plan, rfl⟩
  | nothing => exact .inl rfl
  | begun name pos free => exact .inl rfl
  | recorded plan op scopes pending bracketed => exact .inl rfl
  | abandoned => exact .inl rfl

/-! ## The invariant -/

/-- The three parts of a recorder fit together. -/
structure Consistent (r : Recorder) : Prop where
  /-- No two committed plans have the same name. -/
  distinct : (r.plans.map Plan.name).Nodup
  /-- The name of what is pending is not taken. -/
  free : ∀ plan, r.pending = some plan → plan.name ∉ r.plans.map Plan.name
  /-- In a committed plan every scope is closed, by its kind and in order. -/
  bracketed : ∀ plan ∈ r.plans, Op.scopesAfterAll [] plan.ops = some []
  /-- The scopes are those that the pending operations leave open. -/
  scopes : ∀ plan, r.pending = some plan → Op.scopesAfterAll [] plan.ops = some r.scopes
  /-- With nothing pending no scope is open. -/
  idle : r.pending = none → r.scopes = []

theorem consistent_idle {plans : List Plan} (distinct : (plans.map Plan.name).Nodup)
    (bracketed : ∀ plan ∈ plans, Op.scopesAfterAll [] plan.ops = some []) :
    Consistent { plans := plans } where
  distinct := distinct
  free _ h := by cases h
  bracketed := bracketed
  scopes _ h := by cases h
  idle _ := rfl

theorem consistent_during {plans : List Plan} {plan : Plan} {scopes : List ScopeKind}
    (distinct : (plans.map Plan.name).Nodup) (free : plan.name ∉ plans.map Plan.name)
    (bracketed : ∀ plan ∈ plans, Op.scopesAfterAll [] plan.ops = some [])
    (opened : Op.scopesAfterAll [] plan.ops = some scopes) : Consistent (during plans plan scopes) where
  distinct := distinct
  free p h := by cases h; exact free
  bracketed := bracketed
  scopes p h := by cases h; exact opened
  idle h := by cases h

theorem consistent_new : Consistent {} := consistent_idle List.nodup_nil (by simp)

/-- Every change keeps a recorder consistent. -/
theorem Change.consistent (h : Change r r') (hc : r.Consistent) : r'.Consistent := by
  cases h with
  | nothing => exact hc
  | begun name pos free =>
    refine consistent_during hc.distinct ?_ hc.bracketed rfl
    simpa using free
  | recorded plan op scopes pending bracketed =>
    refine consistent_during hc.distinct (hc.free plan pending) hc.bracketed ?_
    -- one more operation moves the open scopes on from where they were
    rw [Op.scopesAfterAll_append, hc.scopes plan pending]
    simp [Op.scopesAfterAll, bracketed]
  | committed plan pending closed =>
    refine consistent_idle ?_ ?_
    · rw [List.map_append, List.nodup_append]
      refine ⟨hc.distinct, by simp, ?_⟩
      rintro name taken _ hn rfl
      exact hc.free plan pending (List.mem_singleton.1 hn ▸ taken)
    · refine List.forall_mem_append.2 ⟨hc.bracketed, ?_⟩
      rintro _ (_ | ⟨_, ⟨⟩⟩)
      rw [hc.scopes plan pending, closed]
  | abandoned => exact consistent_idle hc.distinct hc.bracketed

theorem consistent_of_run {xs : List Exchange} (h : emitter.Run r xs r') (hc : r.Consistent) :
    r'.Consistent := by
  induction h with
  | nil r => exact hc
  | cons step run ih => exact ih ((change_of_step hc.idle step).consistent hc)

/-- After any calls on a new recorder, in whatever order and however they were answered: the committed
plans have distinct names, none of them the pending one, and are bracketed; the scopes are those that
the pending operations leave open, none if nothing is pending; and the next call adds one plan to the
committed ones or none. -/
theorem run_keeps_consistent {xs : List Exchange} {r : Recorder} (h : emitter.Run {} xs r) :
    r.Consistent ∧
    ∀ x r', emitter.Step r x r' → r'.plans = r.plans ∨ ∃ plan, r'.plans = r.plans ++ [plan] := by
  have hc := consistent_of_run h consistent_new
  exact ⟨hc, fun x r' step => (change_of_step hc.idle step).plans⟩

/-- A rule that begins inside another, a scope closed in the wrong rule, a rule finished twice. -/
theorem run_keeps_consistent_misused :
    ∃ r : Recorder,
      emitter.Run {} [
        { call := .beginRule "a" {} },
        { call := .perform (.openNamed "x" {}) },
        { call := .beginRule "b" {} },
        { call := .perform .closeNamed, refusal := some .unbalancedScope },
        { call := .finishRule },
        { call := .finishRule, refusal := some .noActiveRule },
        { call := .beginRule "b" {}, refusal := some (.ruleExists "b") }] r ∧
      r.plans.map Plan.name = ["b"] ∧ r.Consistent ∧
      ∀ x r', emitter.Step r x r' → r'.plans = r.plans ∨ ∃ plan, r'.plans = r.plans ++ [plan] := by
  refine ⟨{ plans := [{ name := "b", pos := {}, ops := [] }] }, ?run, rfl, run_keeps_consistent ?run⟩
  refine .cons (.beginRule "a" {} _) ?_
  refine .cons (.perform (.openNamed "x" {}) _) ?_
  refine .cons (.beginRule "b" {} _) ?_
  refine .cons (.perform .closeNamed _) ?_
  refine .cons (.finishRule _) ?_
  refine .cons (.finishRule _) ?_
  refine .cons (.beginRule "b" {} _) ?_
  exact .nil _

end Recorder

end LineRules
