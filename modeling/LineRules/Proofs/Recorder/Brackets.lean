/-
Opening and closing operations as brackets of two kinds, and the recorder as their reader. Which
operation is which bracket is said here, by its role; the recorder has no such table, it has a method
for each operation that names its own kind and builds the operation anew from its arguments. A method
that is called with the fields of an operation records this very operation, as its role asks for. The
scopes that stand open after a list of operations are computed from the roles alone; while a rule is
being recorded, the recorder takes an operation exactly if it keeps the brackets right, and its scopes
are the open ones. Every program is bracketed: after it the same scopes stand open as before it.
-/
import LineRules.Proofs.Compose.Program

namespace LineRules

namespace Op

/-! ## Roles -/

/-- What an operation is to the areas around it. -/
inductive Role
  /-- Scans or marks. -/
  | mark
  /-- Belongs to a capture. -/
  | capture
  | opens (kind : ScopeKind)
  | closes (kind : ScopeKind)
  deriving Repr, DecidableEq, Inhabited

/-- The role of an operation. -/
def role : Op → Role
  | openUnnamed _ => .opens .unnamed
  | closeUnnamed => .closes .unnamed
  | openNamed _ _ => .opens .named
  | closeNamed => .closes .named
  | declareField .. => .capture
  | takeBefore .. => .capture
  | takeRest .. => .capture
  | _ => .mark

/-! ## Open scopes -/

/-- The kinds of the scopes that stand open after an operation, innermost first. An operation that
closes anything but the innermost scope, by its own kind, has no such list. -/
def scopesAfter (scopes : List ScopeKind) (op : Op) : Option (List ScopeKind) :=
  match op.role, scopes with
  | .opens kind, scopes => some (kind :: scopes)
  | .closes kind, innermost :: outer => if innermost = kind then some outer else none
  | .closes _, [] => none
  | _, scopes => some scopes

theorem scopesAfter_plain {op : Op} (h : op.role = .mark ∨ op.role = .capture) (scopes : List ScopeKind) :
    op.scopesAfter scopes = some scopes := by
  unfold scopesAfter
  rcases h with h | h <;> rw [h]

theorem scopesAfter_opens {op : Op} {kind : ScopeKind} (h : op.role = .opens kind) (scopes : List ScopeKind) :
    op.scopesAfter scopes = some (kind :: scopes) := by
  unfold scopesAfter
  rw [h]

theorem scopesAfter_closes {op : Op} {kind : ScopeKind} (h : op.role = .closes kind) (scopes : List ScopeKind) :
    op.scopesAfter scopes = if scopes.head? = some kind then some scopes.tail else none := by
  unfold scopesAfter
  rw [h]
  cases scopes <;> simp

/-- The scopes that stand open after operations in order. -/
def scopesAfterAll : List ScopeKind → List Op → Option (List ScopeKind)
  | scopes, [] => some scopes
  | scopes, op :: rest => (op.scopesAfter scopes).bind (scopesAfterAll · rest)

theorem scopesAfterAll_append (scopes : List ScopeKind) (xs ys : List Op) :
    scopesAfterAll scopes (xs ++ ys) = (scopesAfterAll scopes xs).bind (scopesAfterAll · ys) := by
  induction xs generalizing scopes with
  | nil => rfl
  | cons op xs ih =>
    simp only [List.cons_append, scopesAfterAll]
    cases op.scopesAfter scopes with
    | none => rfl
    | some scopes => exact ih scopes

/-! ## Programs are bracketed -/

theorem scopesAfterAll_step (names : List String) (s : Step) (scopes : List ScopeKind) :
    scopesAfterAll scopes (s.program names) = some scopes := by
  cases s with
  | passUntil limit ignore =>
    simp only [Step.program]
    cases limit.literal? with
    | none => rfl
    | some literal =>
      simp only [Option.toList_some, List.map_cons, List.map_nil]
      split <;> rfl
  | take field limit orRest =>
    simp only [Step.program]
    cases limit.literal? <;> rfl
  | _ => rfl

/-- After a program the same scopes stand open as before it. -/
theorem scopesAfterAll_programAll (names : List String) (acts : List Action) (scopes : List ScopeKind) :
    scopesAfterAll scopes (Action.programAll names acts) = some scopes := by
  induction acts using Action.forest_induction generalizing names scopes with
  | nil => rfl
  | unnamed pos body rest hb hr =>
    have area : scopesAfterAll scopes (Action.program names (.unnamed pos body)) = some scopes := by
      show scopesAfterAll (.unnamed :: scopes) (Action.programAll names body ++ [.closeUnnamed]) = _
      rw [scopesAfterAll_append, hb]
      rfl
    rw [Action.programAll, scopesAfterAll_append, area]
    exact hr names scopes
  | named pos name body rest hb hr =>
    have area : scopesAfterAll scopes (Action.program names (.named pos name body)) = some scopes := by
      show scopesAfterAll (.named :: scopes) (Action.programAll (names ++ [name]) body ++ [.closeNamed]) = _
      rw [scopesAfterAll_append, hb]
      rfl
    rw [Action.programAll, scopesAfterAll_append, area]
    exact hr names scopes
  | step pos s rest hr =>
    rw [Action.programAll, scopesAfterAll_append, Action.program, scopesAfterAll_step]
    exact hr names scopes

end Op

/-! ## The recorder reads brackets -/

namespace Recorder

/-- The method of an operation, called with its fields, records the operation itself: every argument comes
back in its place, and the kind of scope that the method names is that of the operation. -/
theorem perform_eq (op : Op) (r : Recorder) :
    emitter.perform op r =
      match op.role with
      | .mark => (.ok (), r.push op)
      | .capture => r.record op
      | .opens kind => r.openScope kind op
      | .closes kind => r.closeScope kind op := by
  cases op <;> rfl

/-- The recorder in the middle of a rule: the committed plans, the plan being recorded, and its open
scopes. -/
def during (plans : List Plan) (plan : Plan) (scopes : List ScopeKind) : Recorder :=
  { plans := plans, pending := some plan, scopes := scopes }

theorem closeScope_during (plans : List Plan) (plan : Plan) (scopes : List ScopeKind) (kind : ScopeKind) (op : Op) :
    (during plans plan scopes).closeScope kind op =
      if scopes.head? = some kind then (.ok (), during plans { plan with ops := plan.ops ++ [op] } scopes.tail)
      else (.error .unbalancedScope, during plans plan scopes) := by
  simp only [closeScope, ne_eq, ite_not]
  rfl

/-- In the middle of a rule, the recorder takes an operation that keeps the brackets right, and
refuses any other without a change. -/
theorem perform_during (plans : List Plan) (plan : Plan) (scopes : List ScopeKind) (op : Op) :
    emitter.perform op (during plans plan scopes) =
      match op.scopesAfter scopes with
      | some scopes => (.ok (), during plans { plan with ops := plan.ops ++ [op] } scopes)
      | none => (.error .unbalancedScope, during plans plan scopes) := by
  rw [perform_eq]
  cases role : op.role with
  | mark =>
    rw [Op.scopesAfter_plain (.inl role)]
    rfl
  | capture =>
    rw [Op.scopesAfter_plain (.inr role)]
    rfl
  | opens kind =>
    rw [Op.scopesAfter_opens role]
    rfl
  | closes kind =>
    -- only a closing operation depends on what is open
    rw [Op.scopesAfter_closes role]
    refine (closeScope_during plans plan scopes kind op).trans ?_
    split <;> rfl

/-- Operations that keep the brackets right are recorded one after the other. -/
theorem replay_during {plans : List Plan} {plan : Plan} {scopes scopes' : List ScopeKind} {ops : List Op}
    (h : Op.scopesAfterAll scopes ops = some scopes') :
    emitter.replay ops (during plans plan scopes) =
      (.ok (), during plans { plan with ops := plan.ops ++ ops } scopes') := by
  induction ops generalizing plan scopes with
  | nil =>
    cases h
    simp [Emitter.replay]
  | cons op ops ih =>
    simp only [Op.scopesAfterAll] at h
    obtain ⟨scopes₁, h₁, h⟩ := Option.bind_eq_some_iff.1 h
    have hp : emitter.perform op (during plans plan scopes) =
        (.ok (), during plans { plan with ops := plan.ops ++ [op] } scopes₁) := by
      rw [perform_during, h₁]
    simp only [Emitter.replay, hp, ih h, List.append_assoc, List.singleton_append]

/-- A program is recorded as it is, and committed as a plan of its own. -/
theorem commit_program (plans : List Plan) (name : String) (pos : Pos) (names : List String)
    (acts : List Action) :
    emitter.commit (Action.programAll names acts) (during plans { name := name, pos := pos, ops := [] } []) =
      (.ok (), { plans := plans ++ [{ name := name, pos := pos, ops := Action.programAll names acts }] }) := by
  rw [Emitter.commit, replay_during (Op.scopesAfterAll_programAll names acts [])]
  rfl

end Recorder

end LineRules
