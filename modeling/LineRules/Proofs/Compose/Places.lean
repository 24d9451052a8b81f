/-
The actions of a rule where they stand: listed in the order in which the walk reaches them, each with
the areas around it. What an action captures, at which path its checkpoint is and what names it brings
in can be told from its place. The walk checks every action where it stands, and nothing else: the
checks among its tasks are those of the places, one after another, and what they ask for is said place
by place.
-/
import LineRules.Proofs.Compose.Program
import LineRules.Proofs.Path
import Mathlib.Data.List.Basic

namespace LineRules

/-! ## Places -/

/-- An action where it stands in a rule. -/
structure Place where
  /-- The areas around the action, outermost first. An unnamed area has no name. -/
  areas : List (Option String)
  action : Action

mutual

/-- An action inside the given areas, and then every action in its body. -/
def Action.places (areas : List (Option String)) : Action → List Place
  | .unnamed pos body => ⟨areas, .unnamed pos body⟩ :: placesAll (areas ++ [none]) body
  | .named pos name body => ⟨areas, .named pos name body⟩ :: placesAll (areas ++ [some name]) body
  | .step pos s => [⟨areas, .step pos s⟩]

/-- The places of actions in order. -/
def Action.placesAll (areas : List (Option String)) : List Action → List Place
  | [] => []
  | a :: rest => places areas a ++ placesAll areas rest

end

/-- Every action of a rule where it stands, in the order in which the walk reaches them. -/
def Rule.places (rule : Rule) : List Place := Action.placesAll [] rule.actions

namespace Action

/-- The field that an action captures. -/
def field? : Action → Option Field
  | step _ (.take field _ _) => some field
  | step _ (.takeRest field) => some field
  | _ => none

/-- The name that an action brings in: of its area or of its field. -/
def name? : Action → Option String
  | named _ name _ => some name
  | a => a.field?.map Field.name

end Action

namespace Place

variable (p : Place)

/-- The names of the named areas around the action, outermost first. -/
def names : List String := p.areas.filterMap id

/-- The segments of the path of the field that is captured here. -/
def captured? : Option (List String) := p.action.field?.map fun field => p.names ++ [field.name]

/-- The segments of the path of the checkpoint in front of the action: that of its field if it
captures one, and otherwise that of the areas around it. -/
def checkpoint? : Option (List String) :=
  match p.action with
  | .unnamed _ _ => none
  | .step _ .errorOnMismatch => none
  | _ => some (p.captured?.getD p.names)

end Place

/-! ## Limits -/

/-- The delimiter of a limit is known: a string, or a character that is one. -/
def Limit.Resolves (l : Limit) : Prop := l.kind = .string ∨ (l.kind = .char ∧ l.value.length = 1)

/-- The delimiter that a step looks for is known. A tolerant skip can do without, if it does not even
know the kind. -/
def Step.LimitResolves : Step → Prop
  | passUntil limit ignore => limit.Resolves ∨ (ignore = true ∧ ∃ kind, limit.kind = .unrecognized kind)
  | take _ limit _ => limit.Resolves
  | _ => True

/-! ## Names of the areas around an action -/

/-- What begins a list of two parts ends in the first, or has it in front. -/
theorem concat_prefix_append {α : Type} {front xs ys : List α} {a : α} (h : front ++ [a] <+: xs ++ ys) :
    front ++ [a] <+: xs ∨ ∃ back, front = xs ++ back ∧ back ++ [a] <+: ys := by
  rcases List.prefix_or_prefix_of_prefix h (List.prefix_append xs ys) with short | ⟨long, hl⟩
  · exact .inl short
  · rcases List.eq_nil_or_concat long with rfl | ⟨back, last, rfl⟩
    · exact .inl ⟨[], by rw [← hl, List.append_nil, List.append_nil]⟩
    · rw [List.concat_eq_append, ← List.append_assoc] at hl
      obtain ⟨rfl, hlast⟩ := List.append_inj' hl rfl
      obtain rfl : last = a := List.singleton_inj.1 hlast
      rw [List.append_assoc, List.prefix_append_right_inj] at h
      exact .inr ⟨back, rfl, h⟩

/-- The names around an action are those of the areas given, or are brought in by actions before it. -/
theorem Action.mem_names_before (acts : List Action) (areas : List (Option String)) {before : List Place} {p : Place}
    {name : String} (hp : before ++ [p] <+: placesAll areas acts) (hn : name ∈ p.names) :
    some name ∈ areas ∨ ∃ q ∈ before, q.action.name? = some name := by
  -- the first action of a list has only the areas given around it
  have first : ∀ {areas a ps}, [p] <+: (⟨areas, a⟩ : Place) :: ps → some name ∈ areas := by
    intro areas a ps h
    obtain rfl := (List.cons_prefix_cons.1 h).1
    simpa [Place.names] using hn
  induction acts using Action.forest_induction generalizing areas before with
  | nil => simp [placesAll] at hp
  | unnamed pos body rest hb hr =>
    rw [placesAll, places] at hp
    rcases concat_prefix_append hp with inside | ⟨back, rfl, behind⟩
    · cases before with
      | nil => exact .inl (first inside)
      | cons _ front =>
        rcases hb _ (List.cons_prefix_cons.1 inside).2 with h | ⟨q, hq, h⟩
        · exact .inl (by simpa using h)
        · exact .inr ⟨q, List.mem_cons_of_mem _ hq, h⟩
    · exact (hr _ behind).imp_right fun ⟨q, hq, h⟩ => ⟨q, List.mem_append_right _ hq, h⟩
  | named pos area body rest hb hr =>
    rw [placesAll, places] at hp
    rcases concat_prefix_append hp with inside | ⟨back, rfl, behind⟩
    · cases before with
      | nil => exact .inl (first inside)
      | cons _ front =>
        obtain ⟨rfl, within⟩ := List.cons_prefix_cons.1 inside
        rcases hb _ within with h | ⟨q, hq, h⟩
        · rcases List.mem_append.1 h with h | h
          · exact .inl h
          · -- the name of the area itself, which comes before everything in it
            exact .inr ⟨_, List.mem_cons_self, (List.mem_singleton.1 h).symm⟩
        · exact .inr ⟨q, List.mem_cons_of_mem _ hq, h⟩
    · exact (hr _ behind).imp_right fun ⟨q, hq, h⟩ => ⟨q, List.mem_append_right _ hq, h⟩
  | step pos s rest hr =>
    rw [placesAll, places] at hp
    cases before with
    | nil => exact .inl (first hp)
    | cons _ front =>
      refine (hr _ (List.cons_prefix_cons.1 hp).2).imp_right fun ⟨q, hq, h⟩ => ?_
      exact ⟨q, List.mem_cons_of_mem _ hq, h⟩

/-- The names around an action are those of the areas given, or are brought in by actions listed. -/
theorem Action.mem_names_placesAll (acts : List Action) (areas : List (Option String)) {p : Place} {name : String}
    (hp : p ∈ placesAll areas acts) (hn : name ∈ p.names) :
    some name ∈ areas ∨ ∃ q ∈ placesAll areas acts, q.action.name? = some name := by
  obtain ⟨before, after, hp⟩ := List.append_of_mem hp
  have here : before ++ [p] <+: placesAll areas acts := by simp [hp]
  refine (mem_names_before acts areas here hn).imp_right fun ⟨q, hq, h⟩ => ⟨q, ?_, h⟩
  rw [hp]
  exact List.mem_append_left _ hq

/-! ## Checks where the actions stand -/

/-- The segments of a draft that stands in the given areas. -/
def Draft.segmentsOf (areas : List (Option String)) : List String := (areas.map (·.getD "")).reverse

theorem segmentsOf_append (areas : List (Option String)) (area : Option String) :
    Draft.segmentsOf (areas ++ [area]) = area.getD "" :: Draft.segmentsOf areas := by
  simp [Draft.segmentsOf]

theorem namesOf_segmentsOf (areas : List (Option String)) :
    Draft.namesOf (Draft.segmentsOf areas) = (areas.filterMap id).filter (· ≠ "") := by
  simp only [Draft.namesOf, Draft.segmentsOf, List.reverse_reverse]
  induction areas with
  | nil => rfl
  | cons area areas ih => cases area <;> simp_all [List.filter_cons]

/-- The task can fail. -/
def Task.isCheck : Task → Bool
  | require _ _ => true
  | declare _ _ => true
  | checkpoint _ _ => true
  | _ => false

namespace Composer

variable {τ : Type} (c : Composer τ)

/-- What is checked when the walk reaches an action. -/
def checks (p : Place) : List Task :=
  match p.action with
  | .unnamed _ _ => []
  | .named pos name _ =>
    [c.outsideTask (p.areas.count none) .namedArea pos, c.nameTask .option name pos,
      .checkpoint (Draft.pathOf (Draft.segmentsOf p.areas)) pos]
  | .step pos s =>
    (c.stepTasks (Draft.segmentsOf p.areas) (p.areas.count none) pos s).filter Task.isCheck

/-- The walk checks the actions where they stand, in order. -/
theorem checks_tasksAll (acts : List Action) (areas : List (Option String)) :
    (c.tasksAll (Draft.segmentsOf areas) (areas.count none) acts).filter Task.isCheck =
      (Action.placesAll areas acts).flatMap c.checks := by
  induction acts using Action.forest_induction generalizing areas with
  | nil => simp [tasksAll, Action.placesAll]
  | unnamed pos body rest hb hr =>
    -- the body stands one area further in, which is one segment and one level of depth to the walk
    have hb := hb (areas ++ [none])
    rw [segmentsOf_append, List.count_append] at hb
    simp only [tasksAll, tasks, Action.placesAll, Action.places, List.filter_cons, List.filter_append,
      List.flatMap_append, List.flatMap_cons, hr areas, ← hb]
    simp [Task.isCheck, checks]
  | named pos name body rest hb hr =>
    have hb := hb (areas ++ [some name])
    rw [segmentsOf_append, List.count_append] at hb
    simp only [tasksAll, tasks, Action.placesAll, Action.places, List.filter_cons, List.filter_append,
      List.flatMap_append, List.flatMap_cons, hr areas, ← hb]
    simp [Task.isCheck, checks, outsideTask, nameTask]
  | step pos s rest hr =>
    simp only [tasksAll, tasks, Action.placesAll, Action.places, List.filter_cons, List.filter_append,
      List.flatMap_append, List.flatMap_cons, hr areas]
    simp [Task.isCheck, checks]

theorem all_filter_isCheck (ts : List Task) : (ts.filter Task.isCheck).all Task.holds = ts.all Task.holds := by
  rw [List.all_filter]
  congr 1
  funext t
  cases t <;> rfl

theorem filterMap_filter_isCheck {f : Task → Option String} (hf : ∀ t, t.isCheck = false → f t = none)
    (ts : List Task) : (ts.filter Task.isCheck).filterMap f = ts.filterMap f := by
  rw [List.filterMap_filter]
  congr 1
  funext t
  cases h : t.isCheck
  · exact (hf t h).symm
  · rfl

theorem declared_of_not_isCheck (t : Task) (h : t.isCheck = false) : t.declared? = none := by
  cases t with
  | declare path field => cases h
  | _ => rfl

theorem registered_of_not_isCheck (t : Task) (h : t.isCheck = false) : t.registered? = none := by
  cases t with
  | checkpoint path pos => cases h
  | _ => rfl

/-! ## What the checks of an action ask for -/

theorem pathOf_segmentsOf (areas : List (Option String)) :
    Draft.pathOf (Draft.segmentsOf areas) = Path.join ((areas.filterMap id).filter (· ≠ "")) := by
  rw [pathOf_eq, namesOf_segmentsOf]

theorem pathOf_cons_segmentsOf (name : String) (areas : List (Option String)) :
    Draft.pathOf (name :: Draft.segmentsOf areas) =
      Path.join ((areas.filterMap id ++ [name]).filter (· ≠ "")) := by
  have h := pathOf_segmentsOf (areas ++ [some name])
  rw [segmentsOf_append] at h
  simpa using h

theorem literal?_isSome_iff (l : Limit) : l.literal?.isSome = true ↔ l.Resolves := by
  unfold Limit.literal? Limit.Resolves
  cases l.kind with
  | string => simp
  | unrecognized kind => simp
  | char =>
    rw [← String.length_toList, List.length_eq_one_iff]
    rcases l.value.toList with _ | ⟨c, _ | _⟩ <;> simp

theorem holds_literalTasks (pos : Pos) (action : String) (limit : Limit) (body : Literal → List Op) :
    (c.literalTasks pos action limit body).all Task.holds = true ↔ limit.Resolves := by
  simp [literalTasks, Task.holds, literal?_isSome_iff]

theorem holds_captureTasks (segments : List String) (depth : Nat) (what : Forbidden) (field : Field) :
    (c.captureTasks segments depth what field).all Task.holds = true ↔
      depth = 0 ∧ c.expectedName field.name = field.name := by
  simp [captureTasks, outsideTask, nameTask, Task.holds]

theorem holds_stepTasks (segments : List String) (depth : Nat) (pos : Pos) (s : Step) :
    (c.stepTasks segments depth pos s).all Task.holds = true ↔
      (∀ field, (Action.step pos s).field? = some field → depth = 0 ∧ c.expectedName field.name = field.name) ∧
      s.LimitResolves := by
  cases s with
  | passUntil limit ignore =>
    simp only [stepTasks, List.all_cons, Task.holds, Bool.true_and, Action.field?, reduceCtorEq, false_implies,
      implies_true, true_and, Step.LimitResolves]
    split
    · rename_i hk
      simp [Task.holds, hk]
    · rename_i hk
      rw [holds_literalTasks]
      refine ⟨.inl, fun h => h.resolve_right ?_⟩
      rintro ⟨rfl, kind, hkind⟩
      exact hk kind hkind rfl
  | take field limit orRest =>
    simp only [stepTasks, List.all_append, Bool.and_eq_true, holds_captureTasks, holds_literalTasks,
      Action.field?, Option.some.injEq, forall_eq', Step.LimitResolves]
  | takeRest field =>
    simp only [stepTasks, List.all_append, Bool.and_eq_true, holds_captureTasks, Action.field?,
      Option.some.injEq, forall_eq', Step.LimitResolves]
    simp [Task.holds]
  | _ => simp [stepTasks, Task.holds, Action.field?, Step.LimitResolves]

/-- The checks of an action that depend on the rule alone: it may stand where it stands, its name is as
the policy wants it, and the delimiter it needs is known. -/
theorem holds_checks (p : Place) :
    (c.checks p).all Task.holds = true ↔
      (p.action.name? ≠ none → none ∉ p.areas) ∧
      (∀ name, p.action.name? = some name → c.expectedName name = name) ∧
      ∀ pos s, p.action = .step pos s → s.LimitResolves := by
  obtain ⟨areas, action⟩ := p
  cases action with
  | unnamed pos body => simp [checks, Action.name?, Action.field?]
  | named pos name body =>
    simp [checks, outsideTask, nameTask, Task.holds, Action.name?, List.count_eq_zero]
  | step pos s =>
    simp only [checks, all_filter_isCheck, holds_stepTasks, Action.name?, Action.step.injEq, and_imp,
      List.count_eq_zero]
    cases (Action.step pos s).field? with
    | none => simp
    | some field => simp [and_assoc]

/-- Neither a field nor a checkpoint is among the tasks of a limit. -/
theorem filterMap_literalTasks {f : Task → Option String} (hr : ∀ holds error, f (.require holds error) = none)
    (he : ∀ op, f (.emit op) = none) (pos : Pos) (action : String) (limit : Limit) (body : Literal → List Op) :
    (c.literalTasks pos action limit body).filterMap f = [] := by
  rw [literalTasks, List.filterMap_cons, hr, List.filterMap_map]
  exact List.filterMap_eq_nil_iff.2 fun op _ => he op

theorem declared_captureTasks (areas : List (Option String)) (depth : Nat) (what : Forbidden) (field : Field) :
    (c.captureTasks (Draft.segmentsOf areas) depth what field).filterMap Task.declared? =
      [Path.join ((areas.filterMap id ++ [field.name]).filter (· ≠ ""))] := by
  rw [← pathOf_cons_segmentsOf]
  rfl

theorem registered_captureTasks (areas : List (Option String)) (depth : Nat) (what : Forbidden) (field : Field) :
    (c.captureTasks (Draft.segmentsOf areas) depth what field).filterMap Task.registered? =
      [Path.join ((areas.filterMap id ++ [field.name]).filter (· ≠ ""))] := by
  rw [← pathOf_cons_segmentsOf]
  rfl

/-- An action declares the field that it captures. -/
theorem declared_checks (p : Place) :
    (c.checks p).filterMap Task.declared? =
      (p.captured?.map fun names => Path.join (names.filter (· ≠ ""))).toList := by
  obtain ⟨areas, action⟩ := p
  cases action with
  | unnamed pos body => rfl
  | named pos name body => rfl
  | step pos s =>
    rw [checks, filterMap_filter_isCheck declared_of_not_isCheck]
    cases s with
    | passUntil limit ignore =>
      simp only [stepTasks, List.filterMap_cons, Task.declared?]
      split
      · rfl
      · rw [c.filterMap_literalTasks (fun _ _ => rfl) (fun _ => rfl)]
        rfl
    | take field limit orRest =>
      rw [stepTasks, List.filterMap_append, declared_captureTasks,
        c.filterMap_literalTasks (fun _ _ => rfl) (fun _ => rfl)]
      rfl
    | takeRest field =>
      rw [stepTasks, List.filterMap_append, declared_captureTasks]
      rfl
    | _ => rfl

/-- An action registers the checkpoint in front of it. -/
theorem registered_checks (p : Place) :
    (c.checks p).filterMap Task.registered? =
      (p.checkpoint?.map fun names => Path.join (names.filter (· ≠ ""))).toList := by
  obtain ⟨areas, action⟩ := p
  cases action with
  | unnamed pos body => rfl
  | named pos name body =>
    rw [checks, pathOf_segmentsOf]
    rfl
  | step pos s =>
    rw [checks, filterMap_filter_isCheck registered_of_not_isCheck]
    cases s with
    | passUntil limit ignore =>
      simp only [stepTasks, List.filterMap_cons, Task.registered?, pathOf_segmentsOf]
      split
      · rfl
      · rw [c.filterMap_literalTasks (fun _ _ => rfl) (fun _ => rfl)]
        rfl
    | take field limit orRest =>
      rw [stepTasks, List.filterMap_append, registered_captureTasks,
        c.filterMap_literalTasks (fun _ _ => rfl) (fun _ => rfl)]
      rfl
    | takeRest field =>
      rw [stepTasks, List.filterMap_append, registered_captureTasks]
      rfl
    | errorOnMismatch => rfl
    | _ =>
      rw [stepTasks, pathOf_segmentsOf]
      rfl

/-! ## What a rule asks for -/

variable (acts : List Action) (areas : List (Option String))

theorem holds_tasksAll :
    (c.tasksAll (Draft.segmentsOf areas) (areas.count none) acts).all Task.holds = true ↔
      ∀ p ∈ Action.placesAll areas acts, (c.checks p).all Task.holds = true := by
  rw [← all_filter_isCheck, checks_tasksAll, List.all_flatMap, List.all_eq_true]

/-- What the checks of each place have to say, in order, is what those of all the tasks have. -/
theorem filterMap_tasksAll {f : Task → Option String} {g : Place → Option String}
    (hf : ∀ t, t.isCheck = false → f t = none) (h : ∀ p, (c.checks p).filterMap f = (g p).toList) :
    (c.tasksAll (Draft.segmentsOf areas) (areas.count none) acts).filterMap f =
      (Action.placesAll areas acts).filterMap g := by
  rw [← filterMap_filter_isCheck hf, checks_tasksAll, List.filterMap_flatMap, List.filterMap_eq_flatMap_toList]
  simp only [h]

theorem declared_tasksAll :
    (c.tasksAll (Draft.segmentsOf areas) (areas.count none) acts).filterMap Task.declared? =
      ((Action.placesAll areas acts).filterMap Place.captured?).map fun names =>
        Path.join (names.filter (· ≠ "")) := by
  rw [List.map_filterMap]
  exact c.filterMap_tasksAll acts areas declared_of_not_isCheck c.declared_checks

theorem registered_tasksAll :
    (c.tasksAll (Draft.segmentsOf areas) (areas.count none) acts).filterMap Task.registered? =
      ((Action.placesAll areas acts).filterMap Place.checkpoint?).map fun names =>
        Path.join (names.filter (· ≠ "")) := by
  rw [List.map_filterMap]
  exact c.filterMap_tasksAll acts areas registered_of_not_isCheck c.registered_checks

end Composer

end LineRules
