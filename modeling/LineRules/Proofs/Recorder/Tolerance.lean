/-
Tolerant variants of a rule. Any of the actions of a rule may be replaced by their tolerant counterparts,
which look for the same but pass over it if it is missing. What the walk checks is the same for both, with one
exception: a tolerant skip does without a kind of delimiter that is not known. So a rule that is composed stays
one whatever is replaced, and its program changes in the flags of the replaced actions only; and the way back
is barred by nothing but such a skip.
-/
import LineRules.Proofs.Compose.FirstOffence
import LineRules.Proofs.Recorder.Atomicity

namespace LineRules

/-! ## Tolerant counterparts -/

/-- The step with the same data that passes over what is missing. A step that cannot stays as it is. -/
def Step.tolerant : Step → Step
  | head literal _ => head literal true
  | passUntil limit _ => passUntil limit true
  | take field limit _ => take field limit true
  | s => s

/-- The operation with its flag set, if it has one. -/
def Op.tolerant : Op → Op
  | head literal _ => head literal true
  | lookupFixed literal offset _ => lookupFixed literal offset true
  | lookup literal lower upper close _ => lookup literal lower upper close true
  | takeBefore name type literal lower upper close _ => takeBefore name type literal lower upper close true
  | op => op

def Action.tolerant : Action → Action
  | step pos s => step pos s.tolerant
  | a => a

def Place.tolerant (p : Place) : Place := { p with action := p.action.tolerant }

/-- The place with the number `k`, with its action replaced if it is chosen. -/
def Place.loosen (chosen : Nat → Bool) (k : Nat) (p : Place) : Place := if chosen k then p.tolerant else p

mutual

/-- The action and those in its body, numbered from `i` on in the order in which the walk reaches them, with
the chosen ones replaced by their tolerant counterparts. -/
def Action.loosen (chosen : Nat → Bool) (i : Nat) : Action → Action
  | .unnamed pos body => .unnamed pos (loosenAll chosen (i + 1) body)
  | .named pos name body => .named pos name (loosenAll chosen (i + 1) body)
  | .step pos s => .step pos (if chosen i then s.tolerant else s)

@[inherit_doc Action.loosen]
def Action.loosenAll (chosen : Nat → Bool) (i : Nat) : List Action → List Action
  | [] => []
  | a :: rest => loosen chosen i a :: loosenAll chosen (i + (a.places []).length) rest

end

/-- The rule with the chosen actions replaced by their tolerant counterparts. An action is chosen by its number
among the places of the rule. -/
def Rule.loosened (chosen : Nat → Bool) (rule : Rule) : Rule :=
  { rule with actions := Action.loosenAll chosen 0 rule.actions }

mutual

/-- The program of an action, each operation with the number of the action that it belongs to. -/
def Action.numbered (names : List String) (i : Nat) : Action → List (Nat × Op)
  | .unnamed pos body => (i, .openUnnamed pos) :: (numberedAll names (i + 1) body ++ [(i, .closeUnnamed)])
  | .named pos name body =>
    (i, .checkpoint (Path.join names)) :: (i, .openNamed name pos) ::
      (numberedAll (names ++ [name]) (i + 1) body ++ [(i, .closeNamed)])
  | .step _ s => (s.program names).map fun op => (i, op)

/-- The numbered programs of actions in order. -/
def Action.numberedAll (names : List String) (i : Nat) : List Action → List (Nat × Op)
  | [] => []
  | a :: rest => numbered names i a ++ numberedAll names (i + (a.places []).length) rest

end

/-- The program of a rule, each operation with the number of its action among the places of the rule. -/
def Rule.numbered (rule : Rule) : List (Nat × Op) := Action.numberedAll [] 0 rule.actions

/-! ## Programs -/

theorem Step.program_tolerant (names : List String) (s : Step) :
    s.tolerant.program names = (s.program names).map Op.tolerant := by
  cases s with
  | passUntil limit ignore =>
    simp only [tolerant, program, List.map_cons, List.map_map]
    congr 2
    funext literal
    simp only [Function.comp]
    split <;> rfl
  | take field limit orRest =>
    simp only [tolerant, program, List.map_cons, List.map_map]
    rfl
  | _ => rfl

theorem Action.map_numberedAll (acts : List Action) (names : List String) (i : Nat) :
    (numberedAll names i acts).map Prod.snd = programAll names acts := by
  induction acts using Action.forest_induction generalizing names i with
  | nil => rfl
  | unnamed pos body rest hb hr => simp [numberedAll, numbered, programAll, program, hb, hr]
  | named pos name body rest hb hr => simp [numberedAll, numbered, programAll, program, hb, hr]
  | step pos s rest hr => simp [numberedAll, numbered, programAll, program, hr, Function.comp_def]

/-- Of the program, the flags of the chosen actions change. -/
theorem Action.programAll_loosenAll (chosen : Nat → Bool) (acts : List Action) (names : List String) (i : Nat) :
    programAll names (loosenAll chosen i acts) =
      (numberedAll names i acts).map fun (k, op) => if chosen k then op.tolerant else op := by
  induction acts using Action.forest_induction generalizing names i with
  | nil => rfl
  | unnamed pos body rest hb hr =>
    simp [loosenAll, loosen, numberedAll, numbered, programAll, program, hb, hr, Op.tolerant]
  | named pos name body rest hb hr =>
    simp [loosenAll, loosen, numberedAll, numbered, programAll, program, hb, hr, Op.tolerant]
  | step pos s rest hr =>
    simp only [loosenAll, loosen, numberedAll, numbered, programAll, program, hr, List.map_append, List.map_map]
    congr 1
    cases h : chosen i
    · simp [Function.comp_def, h]
    · simp [Function.comp_def, h, Step.program_tolerant]

/-! ## Places -/

theorem Action.length_placesAll (acts : List Action) (areas areas' : List (Option String)) :
    (placesAll areas acts).length = (placesAll areas' acts).length := by
  induction acts using Action.forest_induction generalizing areas areas' with
  | nil => rfl
  | unnamed pos body rest hb hr =>
    simp only [placesAll, places, List.length_append, List.length_cons]
    rw [hb _ (areas' ++ [none]), hr _ areas']
  | named pos name body rest hb hr =>
    simp only [placesAll, places, List.length_append, List.length_cons]
    rw [hb _ (areas' ++ [some name]), hr _ areas']
  | step pos s rest hr =>
    simp only [placesAll, places, List.length_append, List.length_cons]
    rw [hr _ areas']

theorem mapIdx_cons_from {α β : Type} (f : Nat → α → β) (i : Nat) (a : α) (l : List α) :
    (a :: l).mapIdx (fun k => f (i + k)) = f i a :: l.mapIdx fun k => f (i + 1 + k) := by
  simp only [List.mapIdx_cons, Nat.add_zero, Nat.add_assoc, Nat.add_comm 1]

theorem mapIdx_append_from {α β : Type} (f : Nat → α → β) (i : Nat) (l l' : List α) :
    (l ++ l').mapIdx (fun k => f (i + k)) =
      l.mapIdx (fun k => f (i + k)) ++ l'.mapIdx fun k => f (i + l.length + k) := by
  simp only [List.mapIdx_append, Nat.add_assoc, Nat.add_comm l.length]

/-- Of the outline, the chosen actions change. -/
theorem Action.outline_loosenAll (chosen : Nat → Bool) (acts : List Action) (areas : List (Option String)) (i : Nat) :
    outline areas (loosenAll chosen i acts) = (outline areas acts).mapIdx fun k => Place.loosen chosen (i + k) := by
  induction acts using Action.forest_induction generalizing areas i with
  | nil => rfl
  | unnamed pos body rest hb hr =>
    have size : ((unnamed pos body).places []).length = 1 + (outline (areas ++ [none]) body).length := by
      rw [places, List.length_cons, outline, List.length_map, length_placesAll body _ (areas ++ [none]), Nat.add_comm]
    rw [loosenAll, loosen, size, outline_unnamed, outline_unnamed, mapIdx_cons_from, mapIdx_append_from, hb, hr,
      Nat.add_assoc]
    congr 1
    exact (ite_self _).symm
  | named pos name body rest hb hr =>
    have size : ((named pos name body).places []).length = 1 + (outline (areas ++ [some name]) body).length := by
      rw [places, List.length_cons, outline, List.length_map, length_placesAll body _ (areas ++ [some name]),
        Nat.add_comm]
    rw [loosenAll, loosen, size, outline_named, outline_named, mapIdx_cons_from, mapIdx_append_from, hb, hr,
      Nat.add_assoc]
    congr 1
    exact (ite_self _).symm
  | step pos s rest hr =>
    rw [loosenAll, loosen, outline_step, outline_step, mapIdx_cons_from, hr]
    congr 1
    cases h : chosen i <;> simp [Place.loosen, Place.tolerant, tolerant, h]

theorem Place.loosen_bare (chosen : Nat → Bool) (k : Nat) (p : Place) :
    Place.loosen chosen k p.bare = (Place.loosen chosen k p).bare := by
  obtain ⟨areas, action⟩ := p
  cases action <;> cases h : chosen k <;> simp [loosen, tolerant, bare, Action.bare, Action.tolerant, h]

/-- The places of a rule and of its tolerant variant correspond by number, in all that bodies do not decide. -/
theorem Rule.map_places_loosened {α : Type} {f : Place → α} (bare : ∀ p, f p.bare = f p) (chosen : Nat → Bool)
    (rule : Rule) (k : Nat) :
    (rule.loosened chosen).places[k]?.map f = rule.places[k]?.map fun p => f (Place.loosen chosen k p) := by
  have same := congrArg (·[k]?.map f) (Action.outline_loosenAll chosen rule.actions [] 0)
  simp only [Action.outline, List.getElem?_map, List.getElem?_mapIdx, Nat.zero_add, Option.map_map,
    Function.comp_def, Place.loosen_bare, bare] at same
  exact same

/-- What flags do not decide either is the same for both. -/
theorem Rule.filterMap_places_loosened {α : Type} {f : Place → Option α} (bare : ∀ p, f p.bare = f p)
    (tolerant : ∀ p, f p.tolerant = f p) (chosen : Nat → Bool) (rule : Rule) :
    (rule.loosened chosen).places.filterMap f = rule.places.filterMap f := by
  have loosen : ∀ k p, f (Place.loosen chosen k p) = f p := by
    intro k p
    rw [Place.loosen]
    split
    · exact tolerant p
    · rfl
  have same : (rule.loosened chosen).places.map f = rule.places.map f := by
    refine List.ext_getElem? fun k => ?_
    rw [List.getElem?_map, List.getElem?_map, rule.map_places_loosened bare]
    simp only [loosen]
  have all := congrArg (List.filterMap id) same
  simpa only [List.filterMap_map, Function.id_comp] using all

theorem Place.captured?_bare (p : Place) : p.bare.captured? = p.captured? := by
  obtain ⟨areas, action⟩ := p
  cases action <;> rfl

theorem Place.checkpoint?_bare (p : Place) : p.bare.checkpoint? = p.checkpoint? := by
  obtain ⟨areas, action⟩ := p
  cases action <;> rfl

theorem Action.name?_tolerant (a : Action) : a.tolerant.name? = a.name? := by
  cases a with
  | step pos s => cases s <;> rfl
  | _ => rfl

theorem Place.captured?_tolerant (p : Place) : p.tolerant.captured? = p.captured? := by
  obtain ⟨areas, action⟩ := p
  cases action with
  | step pos s => cases s <;> rfl
  | _ => rfl

theorem Place.checkpoint?_tolerant (p : Place) : p.tolerant.checkpoint? = p.checkpoint? := by
  obtain ⟨areas, action⟩ := p
  cases action with
  | step pos s => cases s <;> rfl
  | _ => rfl

/-! ## Checks -/

/-- What only a tolerant skip may do: go up to a delimiter of a kind that is not known. -/
def Step.SkipsUnknown : Step → Prop
  | passUntil limit false => ∃ kind, limit.kind = .unrecognized kind
  | _ => False

theorem Step.limitResolves_tolerant_iff (s : Step) :
    s.tolerant.LimitResolves ↔ s.LimitResolves ∨ s.SkipsUnknown := by
  cases s with
  | passUntil limit ignore => cases ignore <;> simp [tolerant, LimitResolves, SkipsUnknown]
  | _ => simp [tolerant, LimitResolves, SkipsUnknown]

theorem Action.forall_tolerant_eq_step_iff {a : Action} {P : Step → Prop} :
    (∀ pos s, a.tolerant = .step pos s → P s) ↔ ∀ pos s, a = .step pos s → P s.tolerant := by
  cases a with
  | step pos s => simp [tolerant]
  | _ => simp [tolerant]

namespace Composer

variable {τ : Type} (c : Composer τ)

/-- The checks of a tolerant counterpart are those of the action, but for the kind of a skip. -/
theorem holds_checks_tolerant (p : Place) :
    (c.checks p.tolerant).all Task.holds = true ↔
      (p.action.name? ≠ none → none ∉ p.areas) ∧
      (∀ name, p.action.name? = some name → c.expectedName name = name) ∧
      ∀ pos s, p.action = .step pos s → s.LimitResolves ∨ s.SkipsUnknown := by
  rw [holds_checks, Place.tolerant, Action.name?_tolerant, Action.forall_tolerant_eq_step_iff]
  simp only [Step.limitResolves_tolerant_iff]

variable {c} {chosen : Nat → Bool} {k : Nat} {p : Place}

theorem holds_checks_loosen (h : (c.checks p).all Task.holds = true) :
    (c.checks (Place.loosen chosen k p)).all Task.holds = true := by
  rw [Place.loosen]
  split
  · obtain ⟨outside, names, limits⟩ := (c.holds_checks p).1 h
    exact (c.holds_checks_tolerant p).2 ⟨outside, names, fun pos s hs => .inl (limits pos s hs)⟩
  · exact h

theorem holds_checks_of_loosen (known : chosen k = true → ∀ pos s, p.action = .step pos s → ¬ s.SkipsUnknown)
    (h : (c.checks (Place.loosen chosen k p)).all Task.holds = true) : (c.checks p).all Task.holds = true := by
  rw [Place.loosen] at h
  split at h
  · rename_i replaced
    obtain ⟨outside, names, limits⟩ := (c.holds_checks_tolerant p).1 h
    refine (c.holds_checks p).2 ⟨outside, names, fun pos s hs => ?_⟩
    exact (limits pos s hs).resolve_right (known replaced pos s hs)
  · exact h

end Composer

/-! ## Walks -/

section

variable {σ γ : Type} (e : Emitter σ γ) (normalize : String → String) (rule : Rule) (chosen : Nat → Bool)

theorem declared_tasks_loosened :
    (e.tasks normalize (rule.loosened chosen)).filterMap Task.declared? =
      (e.tasks normalize rule).filterMap Task.declared? := by
  have same := rule.filterMap_places_loosened Place.captured?_bare Place.captured?_tolerant chosen
  have loosened := (e.composer normalize rule).declared_tasksAll (rule.loosened chosen).actions []
  rw [← Rule.places, same] at loosened
  exact loosened.trans ((e.composer normalize rule).declared_tasksAll rule.actions []).symm

theorem registered_tasks_loosened :
    (e.tasks normalize (rule.loosened chosen)).filterMap Task.registered? =
      (e.tasks normalize rule).filterMap Task.registered? := by
  have same := rule.filterMap_places_loosened Place.checkpoint?_bare Place.checkpoint?_tolerant chosen
  have loosened := (e.composer normalize rule).registered_tasksAll (rule.loosened chosen).actions []
  rw [← Rule.places, same] at loosened
  exact loosened.trans ((e.composer normalize rule).registered_tasksAll rule.actions []).symm

/-- The checks of a tolerant variant, by the places of the rule itself. -/
theorem holds_tasks_loosened_iff :
    (e.tasks normalize (rule.loosened chosen)).all Task.holds = true ↔
      ∀ k p, rule.places[k]? = some p →
        ((e.composer normalize rule).checks (Place.loosen chosen k p)).all Task.holds = true := by
  have tasks := (e.composer normalize rule).holds_tasksAll (rule.loosened chosen).actions []
  have same := rule.map_places_loosened (e.composer normalize rule).checks_bare chosen
  refine Iff.trans tasks ⟨fun holds k p hk => ?_, fun holds p hp => ?_⟩
  · have at_k := same k
    rw [hk, Option.map_some] at at_k
    obtain ⟨q, hq, checks⟩ := Option.map_eq_some_iff.1 at_k
    rw [← checks]
    exact holds q (List.mem_of_getElem? hq)
  · obtain ⟨k, hk⟩ := List.mem_iff_getElem?.1 hp
    have at_k := same k
    rw [Rule.places, hk, Option.map_some] at at_k
    obtain ⟨q, hq, checks⟩ := Option.map_eq_some_iff.1 at_k.symm
    rw [← checks]
    exact holds k q hq

end

/-! ## Composed rules -/

namespace Recorder

variable {normalize : String → String} {rule : Rule} {r : Recorder} {ops : List Op}

/-- A rule is composed onto the recorder if it can begin and the walk over it succeeds. -/
theorem compose_ok_iff_walk :
    (compose emitter normalize rule r).result = .ok ops ↔
      (∃ tracker r', r.beginRule rule.name rule.pos = (.ok tracker, r') ∧
        ((emitter.composer normalize rule).performAll (emitter.tasks normalize rule)
          (Emitter.draft tracker r')).1 = .ok ()) ∧ ops = rule.program := by
  constructor
  · intro composed
    have course := compose_course emitter normalize rule r
    rw [composed] at course
    cases course with
    | committed begun walked committed => exact ⟨⟨_, _, begun, by rw [walked]⟩, ops_of_performAll walked⟩
  · rintro ⟨⟨tracker, r', begun, walked⟩, rfl⟩
    obtain ⟨d, walked⟩ : ∃ d, (emitter.composer normalize rule).performAll (emitter.tasks normalize rule)
        (Emitter.draft tracker r') = (.ok (), d) := ⟨_, Prod.ext walked rfl⟩
    rw [← ops_of_performAll walked]
    exact (Course.committed begun walked (commit_of_performAll begun walked)).eq.1

/-- If a rule is composed, so is every variant of it with chosen actions replaced by their tolerant counterparts,
and of the program the flags of the operations of these actions are set, and nothing else. If such a variant is
composed, so is the rule, unless a skip up to a delimiter of a kind that is not known was replaced. -/
theorem compose_loosened (normalize : String → String) (rule : Rule) (r : Recorder) (chosen : Nat → Bool) :
    (∀ ops, (compose emitter normalize rule r).result = .ok ops →
      ops = rule.numbered.map Prod.snd ∧
      (compose emitter normalize (rule.loosened chosen) r).result =
        .ok (rule.numbered.map fun (k, op) => if chosen k then op.tolerant else op)) ∧
    ((∀ k p, rule.places[k]? = some p → chosen k = true → ∀ pos s, p.action = .step pos s → ¬ s.SkipsUnknown) →
      ∀ ops', (compose emitter normalize (rule.loosened chosen) r).result = .ok ops' →
        ∃ ops, (compose emitter normalize rule r).result = .ok ops) := by
  have places := (emitter.composer normalize rule).holds_tasksAll rule.actions []
  simp only [compose_ok_iff_walk, Composer.performAll_ok_iff, declared_tasks_loosened, registered_tasks_loosened,
    holds_tasks_loosened_iff]
  constructor
  · rintro ops ⟨⟨tracker, r', begun, holds, fresh, registered⟩, rfl⟩
    refine ⟨(Action.map_numberedAll rule.actions [] 0).symm, ⟨tracker, r', begun, fun k p hk => ?_, fresh, registered⟩,
      (Action.programAll_loosenAll chosen rule.actions [] 0).symm⟩
    exact Composer.holds_checks_loosen (places.1 holds p (List.mem_of_getElem? hk))
  · rintro known ops' ⟨⟨tracker, r', begun, holds, fresh, registered⟩, -⟩
    refine ⟨_, ⟨tracker, r', begun, places.2 fun p hp => ?_, fresh, registered⟩, rfl⟩
    obtain ⟨k, hk⟩ := List.mem_iff_getElem?.1 hp
    exact Composer.holds_checks_of_loosen (known k p hk) (holds k p hk)

/-- A skip up to a delimiter of a kind that is not known is composed only if it is tolerant. -/
example :
    let skip : Rule :=
      { name := "access", actions := [.step {} (.passUntil { kind := .unrecognized "regex", value := "x" } false)] }
    (compose emitter NamingPolicy.snake.normalize skip {}).result =
        .error ⟨"access", {}, .malformedLimit "pass_until" (.unrecognized "regex") "x"⟩ ∧
      (compose emitter NamingPolicy.snake.normalize (skip.loosened fun _ => true) {}).result = .ok [.checkpoint ""] := by
  decide +kernel

end Recorder

end LineRules
