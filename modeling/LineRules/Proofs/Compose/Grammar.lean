/-
The grammar of composed programs. A program is a flat list of operations; where an operation stands can
be told by reading the list from the left and keeping the areas that are open. Read this way, scopes are
closed in order and by their kinds, an operation that scans stands right behind a checkpoint at the path
of the open areas, a field is declared right behind the checkpoint at its own path and captured right
after, nothing with a name stands in an unnamed area, and no two fields have the same path. Main
statement: this holds of every rule that is composed, whatever the emitter.
-/
import LineRules.Proofs.Compose.WellFormed
import LineRules.Proofs.Recorder.Brackets

namespace LineRules

namespace Op

/-! ## Reading from the left -/

/-- The areas that stand open after an operation, innermost first, when `areas` stand open before it. An
unnamed area has no name. -/
def areasAfter (areas : List (Option String)) : Op → List (Option String)
  | openUnnamed _ => none :: areas
  | openNamed name _ => some name :: areas
  | closeUnnamed => areas.tail
  | closeNamed => areas.tail
  | _ => areas

/-- The areas that stand open after operations in order. -/
def areasAfterAll (areas : List (Option String)) (ops : List Op) : List (Option String) :=
  ops.foldl areasAfter areas

/-- The names of the named areas among those that are open, outermost first. -/
def areaNames (areas : List (Option String)) : List String := areas.reverse.filterMap id

@[simp] theorem areaNames_unnamed (areas : List (Option String)) : areaNames (none :: areas) = areaNames areas := by
  simp [areaNames]

@[simp] theorem areaNames_named (name : String) (areas : List (Option String)) :
    areaNames (some name :: areas) = areaNames areas ++ [name] := by
  simp [areaNames]

/-- The field that an operation fills, and its type. -/
def filled? : Op → Option (String × FieldType)
  | takeBefore name type _ _ _ _ _ => some (name, type)
  | takeRest name type => some (name, type)
  | _ => none

/-- The name of the field that an operation declares. -/
def declared? : Op → Option String
  | declareField name _ _ => some name
  | _ => none

/-- The segments of the paths of the fields that operations declare, in order, when `areas` stand open
before them. -/
def fieldPaths (areas : List (Option String)) : List Op → List (List String)
  | [] => []
  | op :: rest =>
    (op.declared?.map fun name => areaNames areas ++ [name]).toList ++ fieldPaths (op.areasAfter areas) rest

/-! ## The grammar -/

/-- An operation may stand in the given areas, right between these two. -/
def Fits (areas : List (Option String)) (previous next : Option Op) : Op → Prop
  | openNamed _ _ => none ∉ areas ∧ previous = some (checkpoint (Path.join (areaNames areas)))
  | atEnd | head _ _ | passFirst _ | lookupFixed _ _ _ | lookup _ _ _ _ _ =>
    previous = some (checkpoint (Path.join (areaNames areas)))
  | declareField name type _ =>
    none ∉ areas ∧ previous = some (checkpoint (Path.join (areaNames areas ++ [name]))) ∧
      ∃ capture, next = some capture ∧ capture.filled? = some (name, type)
  | takeBefore name type _ _ _ _ _ | takeRest name type =>
    none ∉ areas ∧ ∃ pos, previous = some (declareField name type pos)
  | openUnnamed _ | closeUnnamed | closeNamed | checkpoint _ | stress => True

/-- What a program must be. -/
structure Grammatical (ops : List Op) : Prop where
  /-- Every scope is closed, the innermost first and by its kind. -/
  balanced : scopesAfterAll [] ops = some []
  /-- Every operation may stand where it stands. -/
  fits : ∀ before op after, ops = before ++ op :: after →
    op.Fits (areasAfterAll [] before) before.getLast? after.head?
  /-- No two fields have the same path. -/
  distinct : ((fieldPaths [] ops).map Path.join).Nodup

/-! ## Operation by operation -/

/-- Every operation fits, when `previous` stands in front of the first. -/
def AllFit (areas : List (Option String)) (previous : Option Op) : List Op → Prop
  | [] => True
  | op :: rest => op.Fits areas previous rest.head? ∧ AllFit (op.areasAfter areas) (some op) rest

theorem AllFit.fits {areas : List (Option String)} {previous : Option Op} {before after : List Op} {op : Op}
    (h : AllFit areas previous (before ++ op :: after)) :
    op.Fits (areasAfterAll areas before) (before.getLast?.or previous) after.head? := by
  induction before generalizing areas previous with
  | nil => exact h.1
  | cons first before ih =>
    have hrest := ih h.2
    cases before with
    | nil => exact hrest
    | cons second before => rwa [List.getLast?_cons_cons]

end Op

/-! ## Programs -/

/-- The action may stand where it stands, and what it looks for is known. -/
def Place.Sound (p : Place) : Prop :=
  (p.action.name? ≠ none → none ∉ p.areas) ∧ ∀ pos s, p.action = .step pos s → s.LimitResolves

section

open Op

variable {areas : List (Option String)} {rest : List Op}

theorem programAll_unnamed_append (names : List String) (pos : Pos) (body others : List Action) :
    Action.programAll names (.unnamed pos body :: others) ++ rest =
      .openUnnamed pos :: (Action.programAll names body ++
        .closeUnnamed :: (Action.programAll names others ++ rest)) := by
  simp [Action.programAll, Action.program]

theorem programAll_named_append (names : List String) (pos : Pos) (name : String) (body others : List Action) :
    Action.programAll names (.named pos name body :: others) ++ rest =
      .checkpoint (Path.join names) :: .openNamed name pos :: (Action.programAll (names ++ [name]) body ++
        .closeNamed :: (Action.programAll names others ++ rest)) := by
  simp [Action.programAll, Action.program]

/-- The operations of a step fit, and so does what comes after them if it does not depend on them. -/
theorem allFit_step {pos : Pos} {s : Step} (sound : Place.Sound ⟨areas.reverse, .step pos s⟩)
    (hrest : ∀ previous, AllFit areas previous rest) (previous : Option Op) :
    AllFit areas previous (s.program (areaNames areas) ++ rest) := by
  obtain ⟨outside, resolves⟩ := sound
  have outside : (Action.step pos s).name? ≠ none → none ∉ areas := by simpa using outside
  have resolves : s.LimitResolves := resolves pos s rfl
  cases s with
  | atEnd => exact ⟨trivial, rfl, hrest _⟩
  | errorOnMismatch => exact ⟨trivial, hrest _⟩
  | head literal optional => exact ⟨trivial, rfl, hrest _⟩
  | passFirst count => exact ⟨trivial, rfl, hrest _⟩
  | passUntil limit ignore =>
    simp only [Step.program]
    cases limit.literal? with
    | none => exact ⟨trivial, hrest _⟩
    | some literal =>
      simp only [Option.toList_some, List.map_cons, List.map_nil]
      split <;> exact ⟨trivial, rfl, hrest _⟩
  | take field limit orRest =>
    have named : none ∉ areas := outside (by simp [Action.name?, Action.field?])
    -- a capture without a literal would leave its field declared and not filled
    obtain ⟨literal, hl⟩ := Option.isSome_iff_exists.1 ((Composer.literal?_isSome_iff limit).2 resolves)
    simp only [Step.program, hl]
    exact ⟨trivial, ⟨named, rfl, _, rfl, rfl⟩, ⟨named, _, rfl⟩, hrest _⟩
  | takeRest field =>
    have named : none ∉ areas := outside (by simp [Action.name?, Action.field?])
    exact ⟨trivial, ⟨named, rfl, _, rfl, rfl⟩, ⟨named, _, rfl⟩, hrest _⟩

/-- The program of actions fits if the actions may stand where they stand, and so does what comes after
it if it does not depend on it. -/
theorem allFit_programAll (areas : List (Option String)) (rest : List Op) {acts : List Action}
    (sound : ∀ p ∈ Action.placesAll areas.reverse acts, p.Sound)
    (hrest : ∀ previous, AllFit areas previous rest) (previous : Option Op) :
    AllFit areas previous (Action.programAll (areaNames areas) acts ++ rest) := by
  -- for every continuation: behind the body of an area stand its closing operation and all that follows
  induction acts using Action.forest_induction generalizing areas rest previous with
  | nil => exact hrest previous
  | unnamed pos body others hb hr =>
    simp only [Action.placesAll, Action.places, List.forall_mem_append, List.forall_mem_cons] at sound
    obtain ⟨⟨-, inside⟩, after⟩ := sound
    have closing : ∀ previous, AllFit (none :: areas) previous
        (.closeUnnamed :: (Action.programAll (areaNames areas) others ++ rest)) :=
      fun _ => ⟨trivial, hr areas rest after hrest _⟩
    have opened := hb (none :: areas) _ (by simpa using inside) closing (some (.openUnnamed pos))
    rw [areaNames_unnamed] at opened
    rw [programAll_unnamed_append]
    exact ⟨trivial, opened⟩
  | named pos name body others hb hr =>
    simp only [Action.placesAll, Action.places, List.forall_mem_append, List.forall_mem_cons] at sound
    obtain ⟨⟨⟨outside, -⟩, inside⟩, after⟩ := sound
    have outside : none ∉ areas := by simpa [Action.name?] using outside
    have closing : ∀ previous, AllFit (some name :: areas) previous
        (.closeNamed :: (Action.programAll (areaNames areas) others ++ rest)) :=
      fun _ => ⟨trivial, hr areas rest after hrest _⟩
    have opened := hb (some name :: areas) _ (by simpa using inside) closing (some (.openNamed name pos))
    rw [areaNames_named] at opened
    rw [programAll_named_append]
    exact ⟨trivial, ⟨outside, rfl⟩, opened⟩
  | step pos s others hr =>
    simp only [Action.placesAll, Action.places, List.forall_mem_append, List.forall_mem_cons] at sound
    obtain ⟨⟨here, -⟩, after⟩ := sound
    rw [Action.programAll, Action.program, List.append_assoc]
    exact allFit_step here (hr areas rest after hrest) previous

theorem fieldPaths_step (pos : Pos) (s : Step) :
    fieldPaths areas (s.program (areaNames areas) ++ rest) =
      (Place.captured? ⟨areas.reverse, .step pos s⟩).toList ++ fieldPaths areas rest := by
  cases s with
  | passUntil limit ignore =>
    simp only [Step.program]
    cases limit.literal? with
    | none => rfl
    | some literal =>
      simp only [Option.toList_some, List.map_cons, List.map_nil]
      split <;> rfl
  | take field limit orRest =>
    simp only [Step.program]
    cases limit.literal? <;> rfl
  | _ => rfl

/-- The fields that a program declares are those that its actions capture, at the same paths. -/
theorem fieldPaths_programAll (areas : List (Option String)) (rest : List Op) (acts : List Action) :
    fieldPaths areas (Action.programAll (areaNames areas) acts ++ rest) =
      (Action.placesAll areas.reverse acts).filterMap Place.captured? ++ fieldPaths areas rest := by
  induction acts using Action.forest_induction generalizing areas rest with
  | nil => rfl
  | unnamed pos body others hb hr =>
    have inside := hb (none :: areas)
      (.closeUnnamed :: (Action.programAll (areaNames areas) others ++ rest))
    rw [areaNames_unnamed, List.reverse_cons] at inside
    rw [programAll_unnamed_append, Action.placesAll, Action.places, List.filterMap_append,
      List.filterMap_cons_none rfl, List.append_assoc, ← hr]
    exact inside
  | named pos name body others hb hr =>
    have inside := hb (some name :: areas)
      (.closeNamed :: (Action.programAll (areaNames areas) others ++ rest))
    rw [areaNames_named, List.reverse_cons] at inside
    rw [programAll_named_append, Action.placesAll, Action.places, List.filterMap_append,
      List.filterMap_cons_none rfl, List.append_assoc, ← hr]
    exact inside
  | step pos s others hr =>
    rw [Action.programAll, Action.program, List.append_assoc, fieldPaths_step pos, hr, Action.placesAll, Action.places,
      List.filterMap_append, List.append_assoc]
    rfl

end

/-- The program of a rule obeys the grammar, if its actions may stand where they stand and capture their
fields at different paths. -/
theorem grammatical_program {rule : Rule} (sound : ∀ p ∈ rule.places, p.Sound)
    (fields : ((rule.places.filterMap Place.captured?).map Path.join).Nodup) : Op.Grammatical rule.program where
  balanced := Op.scopesAfterAll_programAll [] rule.actions []
  fits before op after h := by
    have all := allFit_programAll [] [] sound (fun _ => trivial) none
    rw [List.append_nil, show Action.programAll (Op.areaNames []) rule.actions = _ from h] at all
    simpa using all.fits
  distinct := by
    have paths := fieldPaths_programAll [] [] rule.actions
    rw [List.append_nil, Op.fieldPaths, List.append_nil] at paths
    rw [show Op.fieldPaths [] rule.program = rule.places.filterMap Place.captured? from paths]
    exact fields

/-- Whatever the emitter: a rule that is composed has names as the policy wants them, its operations are
its program, each of them fits where it stands, and no two fields have the same path. -/
theorem fit_of_compose_ok {σ γ : Type} {e : Emitter σ γ} {policy : NamingPolicy} {rule : Rule} {s : σ}
    {ops : List Op} (h : (compose e policy.normalize rule s).result = .ok ops) :
    rule.ProperlyNamed policy.normalize ∧ ops = rule.program ∧ Op.AllFit [] none ops ∧
      ((Op.fieldPaths [] ops).map Path.join).Nodup := by
  have course := compose_course e policy.normalize rule s
  rw [h] at course
  cases course with
  | committed begun walked committed =>
    obtain ⟨holds, fresh, -⟩ :=
      ((e.composer policy.normalize rule).performAll_ok_iff _ _).1 (congrArg Prod.fst walked)
    obtain ⟨outside, names, limits⟩ := (holds_tasks_iff e policy rule).1 holds
    rw [declared_tasks e names] at fresh
    have program := ops_of_performAll walked
    have sound : ∀ p ∈ rule.places, p.Sound := fun p hp => ⟨outside p hp, limits p hp⟩
    have fits := allFit_programAll [] [] sound (fun _ => trivial) none
    rw [List.append_nil] at fits
    refine ⟨names, program, ?_, ?_⟩
    · rw [program]
      exact fits
    · rw [program]
      exact (grammatical_program sound fresh.1).distinct

/-- Whatever the emitter, the operations of a rule that is composed obey the grammar. -/
theorem compose_ok_grammatical {σ γ : Type} {e : Emitter σ γ} {policy : NamingPolicy} {rule : Rule} {s : σ}
    {ops : List Op} (h : (compose e policy.normalize rule s).result = .ok ops) : Op.Grammatical ops := by
  have course := compose_course e policy.normalize rule s
  rw [h] at course
  cases course with
  | committed begun walked committed =>
    obtain ⟨holds, fresh, -⟩ :=
      ((e.composer policy.normalize rule).performAll_ok_iff _ _).1 (congrArg Prod.fst walked)
    obtain ⟨outside, names, limits⟩ := (holds_tasks_iff e policy rule).1 holds
    rw [declared_tasks e names] at fresh
    rw [ops_of_performAll walked]
    exact grammatical_program (fun p hp => ⟨outside p hp, limits p hp⟩) fresh.1

/-- A rule with an unnamed area and captures in named ones, one inside the other. -/
theorem compose_ok_grammatical_nested :
    let rule : Rule := { name := "access", actions := [
      .unnamed ⟨2, 1⟩ [.step ⟨2, 3⟩ (.head (.char '[') true)],
      .named ⟨3, 1⟩ "user" [
        .step ⟨3, 8⟩ (.take { name := "id", type := .int32 } { kind := .char, value := " " } true),
        .named ⟨4, 1⟩ "host" [.step ⟨4, 8⟩ (.takeRest { name := "id", type := .string })]]] }
    ∃ ops, (compose Recorder.emitter NamingPolicy.snake.normalize rule {}).result = .ok ops ∧
      Op.fieldPaths [] ops = [["user", "id"], ["user", "host", "id"]] ∧ Op.Grammatical ops := by
  intro rule
  have h : (compose Recorder.emitter NamingPolicy.snake.normalize rule {}).result = .ok rule.program := by
    decide +kernel
  exact ⟨_, h, by decide +kernel, compose_ok_grammatical h⟩

end LineRules
