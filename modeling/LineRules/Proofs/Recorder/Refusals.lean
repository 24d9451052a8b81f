/-
Refused calls to a recorder. A recorder pops a scope before it finds that there is no plan to record its closing in,
and takes the pending plan out before it commits it; so it is not the code of a single call that keeps a refused call
from leaving traces, but that no scope is ever open while nothing is pending. What a recorder can refuse, and with
which error, is said once.
-/
import LineRules.Proofs.Recorder.Invariant
import LineRules.Proofs.Recorder.Replay
import LineRules.Proofs.Tracker.Visits

namespace LineRules

theorem Exchange.call_of {α : Type} (call : Call) (answer : Except EmitError α) :
    (Exchange.of call answer).call = call := by
  cases answer <;> rfl

theorem Exchange.eq_of_refusal {α : Type} {call : Call} {answer : Except EmitError α} {err : EmitError}
    (h : (Exchange.of call answer).refusal = some err) : answer = .error err := by
  cases answer with
  | ok a => cases h
  | error err' =>
    cases h
    rfl

namespace Recorder

variable {r r' : Recorder}

/-! ## Reasons to refuse -/

/-- A recorder has a reason to refuse a call with an error. Checkpoints are up to the tracker. -/
inductive Refuses (r : Recorder) : Call → EmitError → Prop
  | taken {name : String} {pos : Pos} (taken : r.plans.any (·.name == name) = true) :
    Refuses r (.beginRule name pos) (.ruleExists name)
  | reentered {path : String} : Refuses r (.register path) (.scopeReentered path)
  | idle {op : Op} (pending : r.pending = none) (role : op.role = .capture ∨ ∃ kind, op.role = .opens kind) :
    Refuses r (.perform op) .noActiveRule
  | misplaced {op : Op} {kind : ScopeKind} (role : op.role = .closes kind) (innermost : r.scopes.head? ≠ some kind) :
    Refuses r (.perform op) .unbalancedScope
  | unclosed (opened : r.scopes ≠ []) : Refuses r .finishRule .unbalancedScope
  | nothing (pending : r.pending = none) : Refuses r .finishRule .noActiveRule

theorem Refuses.of_closing {op : Op} {kind : ScopeKind} {err : EmitError} (h : Refuses r (.perform op) err)
    (role : op.role = .closes kind) : err = .unbalancedScope := by
  cases h with
  | idle pending other =>
    rw [role] at other
    rcases other with other | ⟨_, other⟩ <;> cases other
  | misplaced => rfl

/-! ## One call -/

theorem refuses_of_beginRule {name : String} {pos : Pos} {err : EmitError}
    (h : r.beginRule name pos = (.error err, r')) : Refuses r (.beginRule name pos) err ∧ r' = r := by
  unfold beginRule at h
  split at h
  · rename_i taken
    cases h
    exact ⟨.taken taken, rfl⟩
  · cases h

theorem refuses_of_perform (idle : r.pending = none → r.scopes = []) {op : Op} {err : EmitError}
    (h : emitter.perform op r = (.error err, r')) : Refuses r (.perform op) err ∧ r' = r := by
  obtain ⟨plans, _ | plan, scopes⟩ := r
  · -- with nothing pending there is no scope to pop
    obtain rfl : scopes = [] := idle rfl
    rw [perform_eq] at h
    cases role : op.role with
    | mark =>
      rw [role] at h
      cases h
    | capture =>
      rw [role] at h
      cases h
      exact ⟨.idle rfl (.inl role), rfl⟩
    | opens kind =>
      rw [role] at h
      cases h
      exact ⟨.idle rfl (.inr ⟨kind, role⟩), rfl⟩
    | closes kind =>
      rw [role] at h
      cases h
      exact ⟨.misplaced role (by simp), rfl⟩
  · rw [show (⟨plans, some plan, scopes⟩ : Recorder) = during plans plan scopes from rfl, perform_during] at h
    cases after : op.scopesAfter scopes with
    | some next =>
      rw [after] at h
      cases h
    | none =>
      rw [after] at h
      cases h
      cases role : op.role with
      | mark => rw [Op.scopesAfter_plain (.inl role)] at after; cases after
      | capture => rw [Op.scopesAfter_plain (.inr role)] at after; cases after
      | opens kind => rw [Op.scopesAfter_opens role] at after; cases after
      | closes kind =>
        rw [Op.scopesAfter_closes role] at after
        refine ⟨.misplaced role fun innermost => ?_, rfl⟩
        rw [if_pos innermost] at after
        cases after

theorem refuses_of_finishRule {err : EmitError} (h : r.finishRule = (.error err, r')) :
    Refuses r .finishRule err ∧ r' = r := by
  obtain ⟨plans, pending, _ | ⟨kind, scopes⟩⟩ := r
  · cases pending with
    | none =>
      cases h
      exact ⟨.nothing rfl, rfl⟩
    | some plan => cases h
  · cases h
    exact ⟨.unclosed (by simp), rfl⟩

/-- Where a call is refused, the recorder has a reason for it and stays as it is, unless a scope was open with
nothing pending. -/
theorem refuses_of_step (idle : r.pending = none → r.scopes = []) {x : Exchange} (step : emitter.Step r x r')
    {err : EmitError} (refused : x.refusal = some err) : Refuses r x.call err ∧ r' = r := by
  cases step with
  | beginRule name pos =>
    rw [Exchange.call_of]
    exact refuses_of_beginRule (Prod.ext (Exchange.eq_of_refusal refused) rfl)
  | register path tracker =>
    rw [Exchange.call_of]
    have answer : tracker.register path = (.error err, (tracker.register path).2) :=
      Prod.ext (Exchange.eq_of_refusal refused) rfl
    obtain ⟨rfl, -⟩ := Tracker.register_error answer
    exact ⟨.reentered, rfl⟩
  | perform op =>
    rw [Exchange.call_of]
    exact refuses_of_perform idle (Prod.ext (Exchange.eq_of_refusal refused) rfl)
  | finishRule =>
    rw [Exchange.call_of]
    exact refuses_of_finishRule (Prod.ext (Exchange.eq_of_refusal refused) rfl)
  | abandonRule => cases refused

/-! ## Any call -/

/-- After any calls on a new recorder, a call that is refused changes nothing, neither the committed plans nor what
is pending nor the open scopes; and no closing is refused for want of a rule. -/
theorem refused_call_changes_nothing {xs : List Exchange} {x : Exchange} (run : emitter.Run {} xs r)
    (step : emitter.Step r x r') {err : EmitError} (refused : x.refusal = some err) :
    r' = r ∧ (x.call = .perform .closeUnnamed ∨ x.call = .perform .closeNamed → err ≠ .noActiveRule) := by
  have consistent := consistent_of_run run consistent_new
  obtain ⟨reason, same⟩ := refuses_of_step consistent.idle step refused
  refine ⟨same, fun closing => ?_⟩
  rcases closing with closing | closing
  · rw [closing] at reason
    rw [reason.of_closing rfl]
    intro h
    cases h
  · rw [closing] at reason
    rw [reason.of_closing rfl]
    intro h
    cases h

/-- A scope is closed by the wrong kind, in the second rule after one that was given up. -/
theorem refused_call_changes_nothing_mismatched :
    let before : List Exchange := [
      { call := .beginRule "a" {} },
      { call := .perform (.openUnnamed {}) },
      { call := .abandonRule },
      { call := .perform .closeUnnamed, refusal := some .unbalancedScope },
      { call := .beginRule "b" {} },
      { call := .perform (.openNamed "x" {}) }]
    let x : Exchange := { call := .perform .closeUnnamed, refusal := some .unbalancedScope }
    ∃ r r', emitter.Run {} before r ∧ emitter.Step r x r' ∧ r.scopes = [.named] ∧
      (r' = r ∧ (x.call = .perform .closeUnnamed ∨ x.call = .perform .closeNamed →
        EmitError.unbalancedScope ≠ .noActiveRule)) := by
  intro before x
  have run : emitter.Run {} before (during [] ⟨"b", {}, [.openNamed "x" {}]⟩ [.named]) := by
    refine .cons (.beginRule "a" {} _) ?_
    refine .cons (.perform (.openUnnamed {}) _) ?_
    refine .cons (.abandonRule _) ?_
    refine .cons (.perform .closeUnnamed _) ?_
    refine .cons (.beginRule "b" {} _) ?_
    refine .cons (.perform (.openNamed "x" {}) _) ?_
    exact .nil _
  have step : emitter.Step _ x _ := .perform .closeUnnamed (during [] ⟨"b", {}, [.openNamed "x" {}]⟩ [.named])
  exact ⟨_, _, run, step, rfl, refused_call_changes_nothing run step rfl⟩

/-- A recorder that no calls lead to would lose a scope with a call that it refuses. -/
example :
    emitter.closeNamedScope { scopes := [.named] } = (.error .noActiveRule, { scopes := [] }) := by
  decide

end Recorder

end LineRules
