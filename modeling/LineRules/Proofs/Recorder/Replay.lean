/-
What the recorder makes of operations that it is told, whoever drafted them. The bracket language of
operations is stated on its own: what is bracketed, and which scope is the innermost that operations
leave open. The recorder knows neither; it keeps a stack of kinds. Nor does it see operations: replay
takes each of them apart into a call of its method, and the method puts one together again. Main
statement: once a rule has begun, operations are refused exactly if one of them closes a scope that is
not the innermost open one of its kind, at the first such operation and with all before it recorded
field for field; and a rule whose operations are taken is committed, with these operations, exactly if
they leave no scope open.
-/
import LineRules.Proofs.Recorder.Atomicity
import Mathlib.Data.List.Induction

namespace LineRules

namespace Op

/-! ## The bracket language -/

/-- Operations in which every scope that is opened is closed again, by its kind, and nothing else is
closed. -/
inductive Balanced : List Op → Prop
  | nil : Balanced []
  | plain {op : Op} (role : op.role = .mark ∨ op.role = .capture) : Balanced [op]
  | append {xs ys : List Op} (left : Balanced xs) (right : Balanced ys) : Balanced (xs ++ ys)
  | scope {kind : ScopeKind} {opening closing : Op} {body : List Op} (opens : opening.role = .opens kind)
    (inside : Balanced body) (closes : closing.role = .closes kind) :
    Balanced (opening :: (body ++ [closing]))

/-- The innermost scope that operations leave open is of a kind: behind its opening everything is
bracketed. -/
def LeavesOpen (kind : ScopeKind) (ops : List Op) : Prop :=
  ∃ outside opening inside, ops = outside ++ opening :: inside ∧ opening.role = .opens kind ∧ Balanced inside

/-- An operation closes what is not the innermost scope left open before it, or not by its kind. -/
def Misplaced (before : List Op) (op : Op) : Prop :=
  ∃ kind, op.role = .closes kind ∧ ¬ LeavesOpen kind before

/-! ## The stack reads the language -/

/-- Bracketed operations leave the stack as it is. -/
theorem Balanced.scopesAfterAll {ops : List Op} (h : Balanced ops) (scopes : List ScopeKind) :
    scopesAfterAll scopes ops = some scopes := by
  induction h generalizing scopes with
  | nil => rfl
  | plain role => simp [Op.scopesAfterAll, scopesAfter_plain role]
  | append _ _ left right => rw [scopesAfterAll_append, left, Option.bind_some, right]
  | scope opens _ closes inside =>
    rw [Op.scopesAfterAll, scopesAfter_opens opens, Option.bind_some, scopesAfterAll_append, inside]
    simp [Op.scopesAfterAll, scopesAfter_closes closes]

/-- Operations that leave scopes of the given kinds open, innermost first: bracketed operations, with an
opening in front of each part but the outermost. -/
inductive Opens : List ScopeKind → List Op → Prop
  | none {ops : List Op} (outermost : Balanced ops) : Opens [] ops
  | one {kind : ScopeKind} {scopes : List ScopeKind} {outside inside : List Op} {opening : Op}
    (outer : Opens scopes outside) (opens : opening.role = .opens kind) (balanced : Balanced inside) :
    Opens (kind :: scopes) (outside ++ opening :: inside)

theorem Opens.append {scopes : List ScopeKind} {ops more : List Op} (h : Opens scopes ops)
    (balanced : Balanced more) : Opens scopes (ops ++ more) := by
  cases h with
  | none outermost => exact .none (outermost.append balanced)
  | one outer opens inside =>
    rw [List.append_assoc, List.cons_append]
    exact .one outer opens (inside.append balanced)

/-- The stack tells the scopes that operations leave open. -/
theorem opens_of_scopesAfterAll {ops : List Op} {scopes : List ScopeKind}
    (h : scopesAfterAll [] ops = some scopes) : Opens scopes ops := by
  -- from the end, since the last operation acts on the innermost scope
  induction ops using List.reverseRecOn generalizing scopes with
  | nil =>
    cases h
    exact .none .nil
  | append_singleton ops op ih =>
    rw [scopesAfterAll_append] at h
    obtain ⟨before, hb, h⟩ := Option.bind_eq_some_iff.1 h
    have last : op.scopesAfter before = some scopes := by simpa [scopesAfterAll] using h
    have opened := ih hb
    cases role : op.role with
    | mark =>
      rw [scopesAfter_plain (.inl role)] at last
      cases last
      exact opened.append (.plain (.inl role))
    | capture =>
      rw [scopesAfter_plain (.inr role)] at last
      cases last
      exact opened.append (.plain (.inr role))
    | opens kind =>
      rw [scopesAfter_opens role] at last
      cases last
      exact .one opened role .nil
    | closes kind =>
      rw [scopesAfter_closes role] at last
      cases opened with
      | none outermost => simp at last
      | @one innermost outer outside inside opening opened opens balanced =>
        rw [List.head?_cons, List.tail_cons] at last
        split at last <;> cases last
        rename_i same
        obtain rfl : innermost = kind := Option.some.inj same
        rw [List.append_assoc, List.cons_append]
        exact opened.append (.scope opens balanced role)

theorem leavesOpen_iff {ops : List Op} {scopes : List ScopeKind} (h : scopesAfterAll [] ops = some scopes)
    (kind : ScopeKind) : LeavesOpen kind ops ↔ scopes.head? = some kind := by
  constructor
  · rintro ⟨outside, opening, inside, rfl, opens, balanced⟩
    rw [scopesAfterAll_append] at h
    obtain ⟨outer, -, h⟩ := Option.bind_eq_some_iff.1 h
    rw [scopesAfterAll, scopesAfter_opens opens, Option.bind_some, balanced.scopesAfterAll] at h
    cases h
    rfl
  · intro head
    cases opens_of_scopesAfterAll h with
    | none outermost => cases head
    | @one innermost outer outside inside opening opened opens balanced =>
      obtain rfl : innermost = kind := Option.some.inj head
      exact ⟨outside, opening, inside, rfl, opens, balanced⟩

theorem misplaced_iff {before : List Op} {scopes : List ScopeKind} (h : scopesAfterAll [] before = some scopes)
    (op : Op) : Misplaced before op ↔ op.scopesAfter scopes = none := by
  unfold Misplaced
  simp only [leavesOpen_iff h]
  cases role : op.role with
  | mark => simp [scopesAfter_plain (.inl role)]
  | capture => simp [scopesAfter_plain (.inr role)]
  | opens kind => simp [scopesAfter_opens role]
  | closes kind => simp [scopesAfter_closes role]

/-- Where the stack has no answer, there is a first operation for which it has none. -/
theorem exists_of_scopesAfterAll_eq_none {ops : List Op} {scopes : List ScopeKind}
    (h : scopesAfterAll scopes ops = none) :
    ∃ before op after scopes', ops = before ++ op :: after ∧ scopesAfterAll scopes before = some scopes' ∧
      op.scopesAfter scopes' = none := by
  induction ops generalizing scopes with
  | nil => cases h
  | cons op ops ih =>
    cases first : op.scopesAfter scopes with
    | none => exact ⟨[], op, ops, scopes, rfl, rfl, first⟩
    | some scopes₁ =>
      rw [scopesAfterAll, first] at h
      obtain ⟨before, op', after, scopes₂, rfl, passed, refused⟩ := ih h
      refine ⟨op :: before, op', after, scopes₂, rfl, ?_, refused⟩
      rw [scopesAfterAll, first]
      exact passed

/-- The stack has no answer exactly if an operation is misplaced. -/
theorem scopesAfterAll_eq_none_iff {ops : List Op} :
    scopesAfterAll [] ops = none ↔ ∃ before op after, ops = before ++ op :: after ∧ Misplaced before op := by
  constructor
  · intro h
    obtain ⟨before, op, after, scopes, split, passed, refused⟩ := exists_of_scopesAfterAll_eq_none h
    exact ⟨before, op, after, split, (misplaced_iff passed op).2 refused⟩
  · rintro ⟨before, op, after, rfl, misplaced⟩
    rw [scopesAfterAll_append]
    cases passed : scopesAfterAll [] before with
    | none => rfl
    | some scopes =>
      rw [Option.bind_some, scopesAfterAll, (misplaced_iff passed op).1 misplaced]
      rfl

end Op

/-! ## Replay -/

theorem Emitter.replay_append {σ γ : Type} (e : Emitter σ γ) (xs ys : List Op) (s : σ) :
    e.replay (xs ++ ys) s =
      match e.replay xs s with
      | (.ok (), s) => e.replay ys s
      | (.error err, s) => (.error err, s) := by
  induction xs generalizing s with
  | nil => rfl
  | cons op xs ih =>
    simp only [List.cons_append, Emitter.replay]
    rcases e.perform op s with ⟨_ | _, s⟩
    · rfl
    · exact ih s

namespace Recorder

/-- Replay stops at the first operation that breaks the brackets, with those before it recorded. -/
theorem replay_during_error {plans : List Plan} {plan : Plan} {scopes scopes' : List ScopeKind}
    {before after : List Op} {op : Op} (passed : Op.scopesAfterAll scopes before = some scopes')
    (refused : op.scopesAfter scopes' = none) :
    emitter.replay (before ++ op :: after) (during plans plan scopes) =
      (.error .unbalancedScope, during plans { plan with ops := plan.ops ++ before } scopes') := by
  have stop : emitter.perform op (during plans { plan with ops := plan.ops ++ before } scopes') =
      (.error .unbalancedScope, during plans { plan with ops := plan.ops ++ before } scopes') := by
    rw [perform_during, refused]
  rw [Emitter.replay_append, replay_during passed]
  simp only [Emitter.replay, stop]

/-- In the middle of a rule, operations are refused exactly if they break the brackets. -/
theorem replay_during_error_iff {plans : List Plan} {plan : Plan} {scopes : List ScopeKind} {ops : List Op} :
    (∃ err, (emitter.replay ops (during plans plan scopes)).1 = .error err) ↔
      Op.scopesAfterAll scopes ops = none := by
  cases h : Op.scopesAfterAll scopes ops with
  | none =>
    obtain ⟨before, op, after, scopes', rfl, passed, refused⟩ := Op.exists_of_scopesAfterAll_eq_none h
    rw [replay_during_error passed refused]
    exact iff_of_true ⟨_, rfl⟩ rfl
  | some scopes' =>
    rw [replay_during h]
    simp

theorem finishRule_during (plans : List Plan) (plan : Plan) (scopes : List ScopeKind) :
    emitter.finishRule (during plans plan scopes) =
      if scopes = [] then (.ok (), { plans := plans ++ [plan] })
      else (.error .unbalancedScope, during plans plan scopes) := by
  cases scopes <;> rfl

/-- After a rule has begun, its operations are refused exactly if one of them is misplaced, with those
before the first such operation recorded; otherwise they are recorded as they are, and the rule can be
committed with them exactly if they leave no scope open. -/
theorem replay_refuses_misplaced {r : Recorder} {name : String} (free : ∀ plan ∈ r.plans, plan.name ≠ name)
    (pos : Pos) (ops : List Op) :
    ∃ begun, r.beginRule name pos = (.ok {}, begun) ∧
      ((∃ err, (emitter.replay ops begun).1 = .error err) ↔
        ∃ before op after, ops = before ++ op :: after ∧ Op.Misplaced before op) ∧
      (∀ before op after, ops = before ++ op :: after → Op.Misplaced before op →
        (∀ front earlier back, before = front ++ earlier :: back → ¬ Op.Misplaced front earlier) →
        (emitter.replay ops begun).1 = .error .unbalancedScope ∧
        (emitter.replay ops begun).2.pending = some { name := name, pos := pos, ops := before }) ∧
      ((emitter.replay ops begun).1 = .ok () →
        (emitter.replay ops begun).2.pending = some { name := name, pos := pos, ops := ops } ∧
        ((emitter.finishRule (emitter.replay ops begun).2).1 = .ok () ↔ ∀ kind, ¬ Op.LeavesOpen kind ops) ∧
        ((emitter.finishRule (emitter.replay ops begun).2).1 = .ok () →
          (emitter.finishRule (emitter.replay ops begun).2).2.plans =
            r.plans ++ [{ name := name, pos := pos, ops := ops }])) := by
  refine ⟨_, beginRule_free free pos, replay_during_error_iff.trans Op.scopesAfterAll_eq_none_iff, ?_, ?_⟩
  · rintro before op after rfl misplaced first
    cases passed : Op.scopesAfterAll [] before with
    | none =>
      -- then one of the operations before it would be misplaced
      obtain ⟨front, earlier, back, split, misplaced⟩ := Op.scopesAfterAll_eq_none_iff.1 passed
      exact absurd misplaced (first front earlier back split)
    | some scopes =>
      rw [replay_during_error passed ((Op.misplaced_iff passed op).1 misplaced)]
      exact ⟨rfl, rfl⟩
  · intro taken
    cases h : Op.scopesAfterAll [] ops with
    | none =>
      obtain ⟨err, refused⟩ := replay_during_error_iff.2 h
      rw [taken] at refused
      cases refused
    | some scopes =>
      have closed : (∀ kind, ¬ Op.LeavesOpen kind ops) ↔ scopes = [] := by
        simp only [Op.leavesOpen_iff h]
        cases scopes <;> simp
      rw [replay_during h, List.nil_append, finishRule_during, closed]
      refine ⟨rfl, ?_, ?_⟩ <;> split <;> simp [*]

/-- An area closed as if it had no name, behind searches that were recorded properly, on a recorder that was
left in the middle of another rule; and the same without the area. -/
theorem replay_refuses_misplaced_mixed :
    let r : Recorder := during [{ name := "a", pos := {}, ops := [] }] { name := "b", pos := {}, ops := [] } [.named]
    let ops : List Op := [.openUnnamed ⟨1, 2⟩, .lookup (.char 'x') 1 2 true false, .closeUnnamed,
      .takeBefore "f" .int32 (.string "y") 3 4 false true, .openNamed "z" {}, .closeUnnamed, .closeNamed]
    (∀ plan ∈ r.plans, plan.name ≠ "c") ∧
      (∃ begun, r.beginRule "c" {} = (.ok {}, begun) ∧
        (∃ err, (emitter.replay ops begun).1 = .error err) ∧
        ∃ before op after, ops = before ++ op :: after ∧ Op.Misplaced before op) ∧
      ∃ begun, r.beginRule "c" {} = (.ok {}, begun) ∧
        (emitter.finishRule (emitter.replay (ops.take 4) begun).2).2.plans =
          [{ name := "a", pos := {}, ops := [] }, { name := "c", pos := {}, ops := ops.take 4 }] := by
  intro r ops
  have free : ∀ plan ∈ r.plans, plan.name ≠ "c" := by decide
  obtain ⟨begun, begins, refused, -, -⟩ := replay_refuses_misplaced free {} ops
  obtain ⟨begun', begins', -, -, taken⟩ := replay_refuses_misplaced free {} (ops.take 4)
  have same : begun = during r.plans { name := "c", pos := {}, ops := [] } [] := by
    cases begins
    rfl
  have same' : begun' = during r.plans { name := "c", pos := {}, ops := [] } [] := by
    cases begins'
    rfl
  have fails : ∃ err, (emitter.replay ops begun).1 = .error err := ⟨.unbalancedScope, by rw [same]; decide⟩
  refine ⟨free, ⟨begun, begins, fails, refused.1 fails⟩, begun', begins', ?_⟩
  exact (taken (by rw [same']; decide)).2.2 (by rw [same']; decide)

end Recorder

end LineRules
