/-
The program of a rule by recursion on its actions alone, and the composer's operations as this
program. The recursion knows nothing but the names of the enclosing named areas: no queue, no stack
of segments, no depth, no tracker. Main statement: whatever the emitter and the naming policy, the
operations of a rule that is composed are its program.
-/
import LineRules.Naming
import LineRules.Proofs.Compose.Outcome
import LineRules.Recorder
import Mathlib.Tactic.Common

namespace LineRules

/-! ## Programs -/

/-- The program of an action without a body, in named areas with the given names, outermost first.
Where a limit has no literal, nothing is looked for: an accepted rule has such a limit only in a
tolerant skip whose kind of delimiter is not known. -/
def Step.program (names : List String) : Step → List Op
  | .atEnd => [.checkpoint (Path.join names), .atEnd]
  | .errorOnMismatch => [.stress]
  | .head literal optional => [.checkpoint (Path.join names), .head literal optional]
  | .passFirst count => [.checkpoint (Path.join names), .passFirst count]
  | .passUntil limit ignore =>
    .checkpoint (Path.join names) :: limit.literal?.toList.map fun literal =>
      if limit.lower = limit.upper ∧ 0 < limit.upper then .lookupFixed literal limit.lower ignore
      else .lookup literal limit.lower limit.upper limit.close ignore
  | .take field limit orRest =>
    .checkpoint (Path.join (names ++ [field.name])) ::
      .declareField field.name field.type field.pos :: limit.literal?.toList.map fun literal =>
        .takeBefore field.name field.type literal limit.lower limit.upper limit.close orRest
  | .takeRest field =>
    [.checkpoint (Path.join (names ++ [field.name])), .declareField field.name field.type field.pos,
      .takeRest field.name field.type]

mutual

/-- The program of an action, in named areas with the given names, outermost first. -/
def Action.program (names : List String) : Action → List Op
  | .unnamed pos body => .openUnnamed pos :: (programAll names body ++ [.closeUnnamed])
  | .named pos name body =>
    .checkpoint (Path.join names) :: .openNamed name pos ::
      (programAll (names ++ [name]) body ++ [.closeNamed])
  | .step _ s => s.program names

/-- The programs of actions in order. -/
def Action.programAll (names : List String) : List Action → List Op
  | [] => []
  | a :: rest => program names a ++ programAll names rest

end

/-- The program of a rule. -/
def Rule.program (rule : Rule) : List Op := Action.programAll [] rule.actions

/-! ## Names of the enclosing areas -/

/-- The names of the named areas among the segments of a draft, outermost first. -/
def Draft.namesOf (segments : List String) : List String := segments.reverse.filter (· ≠ "")

theorem pathOf_eq (segments : List String) : Draft.pathOf segments = Path.join (Draft.namesOf segments) :=
  rfl

theorem namesOf_unnamed (segments : List String) : Draft.namesOf ("" :: segments) = Draft.namesOf segments := by
  simp [Draft.namesOf]

theorem namesOf_named {name : String} (h : name ≠ "") (segments : List String) :
    Draft.namesOf (name :: segments) = Draft.namesOf segments ++ [name] := by
  simp [Draft.namesOf, h]

namespace Composer

variable {τ : Type} (c : Composer τ)

theorem expectedName_ne_empty (name : String) : c.expectedName name ≠ "" := by
  simp only [expectedName]
  split
  · decide
  · assumption

/-- A name that passes its check is not empty. -/
theorem ne_empty_of_nameTask {what : Named} {name : String} {pos : Pos}
    (h : (c.nameTask what name pos).holds = true) : name ≠ "" := by
  have he : c.expectedName name = name := of_decide_eq_true h
  rw [← he]
  exact c.expectedName_ne_empty name

/-! ## Tasks yield the program -/

theorem ops_literalTasks (pos : Pos) (action : String) (limit : Limit) (body : Literal → List Op) :
    (c.literalTasks pos action limit body).flatMap Task.ops = limit.literal?.toList.flatMap body := by
  simp only [literalTasks, List.flatMap_cons, Task.ops, List.nil_append, List.flatMap_map]
  exact List.flatMap_singleton' _

theorem literal_of_literalTasks {pos : Pos} {action : String} {limit : Limit} {body : Literal → List Op}
    (h : (c.literalTasks pos action limit body).all Task.holds = true) :
    ∃ literal, limit.literal? = some literal := by
  simp only [literalTasks, List.all_cons, Bool.and_eq_true] at h
  exact Option.isSome_iff_exists.1 h.1

theorem lookup_eq (limit : Limit) (literal : Literal) (ignore : Bool) :
    limit.lookup literal ignore =
      if limit.lower = limit.upper ∧ 0 < limit.upper then .lookupFixed literal limit.lower ignore
      else .lookup literal limit.lower limit.upper limit.close ignore := by
  unfold Limit.lookup Limit.isFixed
  by_cases h : limit.lower = limit.upper <;> simp [h]

theorem ops_captureTasks {segments : List String} {depth : Nat} {what : Forbidden} {field : Field}
    (h : (c.captureTasks segments depth what field).all Task.holds = true) :
    (c.captureTasks segments depth what field).flatMap Task.ops =
      [.checkpoint (Path.join (Draft.namesOf segments ++ [field.name]))] := by
  simp only [captureTasks, List.all_cons, Bool.and_eq_true] at h
  have hn := c.ne_empty_of_nameTask h.2.1
  rw [← namesOf_named hn, ← pathOf_eq]
  rfl

theorem ops_stepTasks {segments : List String} {depth : Nat} {pos : Pos} {s : Step}
    (h : (c.stepTasks segments depth pos s).all Task.holds = true) :
    (c.stepTasks segments depth pos s).flatMap Task.ops = s.program (Draft.namesOf segments) := by
  cases s with
  | passUntil limit ignore =>
    simp only [stepTasks, Step.program, List.flatMap_cons, Task.ops, List.singleton_append, pathOf_eq,
      ← lookup_eq]
    congr 1
    split
    · rename_i hk
      simp [Task.ops, Limit.literal?, hk]
    · rw [ops_literalTasks, List.map_eq_flatMap]
  | take field limit orRest =>
    simp only [stepTasks, List.all_append, Bool.and_eq_true] at h
    simp only [stepTasks, Step.program, List.flatMap_append, c.ops_captureTasks h.1, c.ops_literalTasks]
    obtain ⟨literal, hl⟩ := c.literal_of_literalTasks h.2
    rw [hl]
    rfl
  | takeRest field =>
    simp only [stepTasks, List.all_append, Bool.and_eq_true] at h
    simp only [stepTasks, Step.program, List.flatMap_append, c.ops_captureTasks h.1]
    rfl
  | _ => rfl

theorem ops_tasksAll {acts : List Action} {segments : List String} {depth : Nat}
    (h : (c.tasksAll segments depth acts).all Task.holds = true) :
    (c.tasksAll segments depth acts).flatMap Task.ops = Action.programAll (Draft.namesOf segments) acts := by
  induction acts using Action.forest_induction generalizing segments depth with
  | nil => simp [tasksAll, Action.programAll]
  | unnamed pos body rest hb hr =>
    simp only [tasksAll, tasks, List.all_cons, List.all_append, Bool.and_eq_true] at h
    obtain ⟨-, ⟨-, hbody, -⟩, hrest⟩ := h
    simp only [tasksAll, tasks, Action.programAll, Action.program, List.flatMap_cons, List.flatMap_append,
      hb hbody, hr hrest, namesOf_unnamed]
    rfl
  | named pos name body rest hb hr =>
    simp only [tasksAll, tasks, List.all_cons, List.all_append, Bool.and_eq_true] at h
    -- here the checks are needed: an empty name would not show in the paths of the body
    obtain ⟨-, ⟨-, hname, -, -, hbody, -⟩, hrest⟩ := h
    simp only [tasksAll, tasks, Action.programAll, Action.program, List.flatMap_cons, List.flatMap_append,
      hb hbody, hr hrest, namesOf_named (c.ne_empty_of_nameTask hname)]
    rfl
  | step pos s rest hr =>
    simp only [tasksAll, tasks, List.all_cons, List.all_append, Bool.and_eq_true] at h
    obtain ⟨-, hstep, hrest⟩ := h
    simp only [tasksAll, tasks, Action.programAll, Action.program, List.flatMap_cons, List.flatMap_append,
      c.ops_stepTasks hstep, hr hrest]
    rfl

end Composer

/-! ## Composed rules -/

section

variable {σ γ : Type} {e : Emitter σ γ} {normalize : String → String} {rule : Rule}

/-- If the walk over a rule succeeds, the operations on its draft are the rule's program. -/
theorem ops_of_performAll {tracker : γ} {s : σ} {d : Draft (γ × σ)}
    (h : (e.composer normalize rule).performAll (e.tasks normalize rule) (Emitter.draft tracker s) =
      (.ok (), d)) : d.ops = rule.program := by
  have hh := ((e.composer normalize rule).performAll_ok_iff _ _).1 (congrArg Prod.fst h)
  have ho := ((e.composer normalize rule).performAll_ok h).1
  rw [ho]
  exact (e.composer normalize rule).ops_tasksAll hh.1

/-- Whatever the emitter and the naming policy: the operations of a rule that is composed are its
program. -/
theorem compose_ok_program {s : σ} {ops : List Op} (h : (compose e normalize rule s).result = .ok ops) :
    ops = rule.program := by
  have hc := compose_course e normalize rule s
  rw [h] at hc
  cases hc with
  | committed begun walked committed => exact ops_of_performAll walked

end

/-- A rule with both kinds of areas, a tolerant skip that is passed over, a look-up at a fixed place
and a capture. -/
theorem compose_ok_program_nested :
    let rule : Rule := { name := "access", actions := [
      .unnamed ⟨2, 1⟩ [.step ⟨2, 3⟩ (.passUntil { kind := .unrecognized "regex", value := "x" } true)],
      .named ⟨3, 1⟩ "user" [
        .step ⟨3, 8⟩ (.passUntil { kind := .string, value := ", ", lower := 2, upper := 2 } false),
        .step ⟨3, 9⟩ (.take { name := "id", type := .int32 } { kind := .char, value := " " } true)]] }
    ∃ ops, (compose Recorder.emitter NamingPolicy.snake.normalize rule {}).result = .ok ops ∧
      ops = rule.program := by
  intro rule
  have h : (compose Recorder.emitter NamingPolicy.snake.normalize rule {}).result = .ok rule.program := by
    decide +kernel
  exact ⟨_, h, compose_ok_program h⟩

end LineRules
