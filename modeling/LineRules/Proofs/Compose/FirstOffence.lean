/-
Which action the error of a walk comes from. The actions of a rule, each without its body and where it
stands, make up the outline of the rule; what an action checks for itself is what the walk over it alone
checks. The walk over a rule comes to the same as visiting its outline, action by action: whatever lies
around an action only opens before it and closes behind it. So the error is that of the first action that
fails when those before it have passed, and nothing that comes after this action, at whatever depth, has a
part in it. It is located at the field of a capture, or else, and always for a limit, at the action itself.
-/
import LineRules.Proofs.Compose.Duplicates

namespace LineRules

/-! ## Outlines -/

/-- An action without what is in its body. -/
def Action.bare : Action → Action
  | unnamed pos _ => unnamed pos []
  | named pos name _ => named pos name []
  | step pos s => step pos s

/-- The area that an action opens, and the actions in it. -/
def Action.area? : Action → Option (Option String × List Action)
  | unnamed _ body => some (none, body)
  | named _ name body => some (some name, body)
  | step _ _ => none

/-- The position to blame when an action fails. -/
def Action.blamed (a : Action) : ComposeError → Pos
  | .scopeViolation _ => (a.field?.map Field.pos).getD a.pos
  | .invalidIdentifier .. => (a.field?.map Field.pos).getD a.pos
  | .duplicateField .. => (a.field?.map Field.pos).getD a.pos
  | .checkpointViolation _ => (a.field?.map Field.pos).getD a.pos
  | _ => a.pos

def Place.bare (p : Place) : Place := { p with action := p.action.bare }

/-- The actions of a list inside the given areas, and those in their bodies, in the order in which the walk
reaches them, without their bodies. -/
def Action.outline (areas : List (Option String)) (acts : List Action) : List Place :=
  (placesAll areas acts).map Place.bare

theorem Action.outline_unnamed (areas : List (Option String)) (pos : Pos) (body rest : List Action) :
    outline areas (unnamed pos body :: rest) =
      ⟨areas, unnamed pos []⟩ :: (outline (areas ++ [none]) body ++ outline areas rest) := by
  simp [outline, placesAll, places, Place.bare, bare]

theorem Action.outline_named (areas : List (Option String)) (pos : Pos) (name : String) (body rest : List Action) :
    outline areas (named pos name body :: rest) =
      ⟨areas, named pos name []⟩ :: (outline (areas ++ [some name]) body ++ outline areas rest) := by
  simp [outline, placesAll, places, Place.bare, bare]

theorem Action.outline_step (areas : List (Option String)) (pos : Pos) (s : Step) (rest : List Action) :
    outline areas (step pos s :: rest) = ⟨areas, step pos s⟩ :: outline areas rest := by
  simp [outline, placesAll, places, Place.bare, bare]

/-- The draft of a walk that stands in the given areas. -/
def Draft.standingIn {τ : Type} (areas : List (Option String)) (d : Draft τ) : Draft τ :=
  d.movedTo (segmentsOf areas) (areas.count none)

namespace Walk

variable {τ : Type}

theorem andThen_done (w : Walk τ) : w.andThen done = w := by
  funext d
  simp only [andThen]
  rcases w d with ⟨_ | _, d⟩ <;> rfl

theorem all_append (us vs : List (Walk τ)) : all (us ++ vs) = (all us).andThen (all vs) := by
  induction us with
  | nil => rfl
  | cons u us ih =>
    show u.andThen (all (us ++ vs)) = (u.andThen (all us)).andThen (all vs)
    rw [ih, Composer.andThen_assoc]

/-- If pieces of the walk fail, then one of them does, after those before it have succeeded. -/
theorem all_error {ws : List (Walk τ)} {d d' : Draft τ} {err : RuleError} (h : all ws d = (.error err, d')) :
    ∃ before w after d₁, ws = before ++ w :: after ∧ all before d = (.ok (), d₁) ∧ w d₁ = (.error err, d') := by
  induction ws generalizing d with
  | nil => cases h
  | cons w ws ih =>
    simp only [all, andThen] at h
    rcases hw : w d with ⟨_ | _, d₁⟩ <;> rw [hw] at h
    · cases h
      exact ⟨[], w, ws, d, rfl, rfl, hw⟩
    · obtain ⟨before, u, after, d₂, rfl, passed, failed⟩ := ih h
      refine ⟨w :: before, u, after, d₂, rfl, ?_, failed⟩
      simp only [all, andThen, hw, passed]

end Walk

namespace Composer

variable {τ : Type} (c : Composer τ)

open Walk

/-- The walk over an action alone, where it stands: its own checks. -/
def visit (p : Place) : Walk τ := fun d => c.walkAll [p.action.bare] (d.standingIn p.areas)

/-- Actions visited one after another, up to the first that fails. -/
def visitAll (ps : List Place) : Walk τ := all (ps.map c.visit)

/-- The action fails with the error, after those before it have passed. -/
def Offends (tracker : τ) (before : List Place) (p : Place) (err : RuleError) : Prop :=
  ∃ d, c.visitAll before { tracker := tracker } = (.ok (), d) ∧ (c.visit p d).1 = .error err

/-! ## The walk visits the outline -/

/-- Of where it stands a draft tells nothing that visits ask for. -/
theorem agrees_standingIn {d d' : Draft τ} (h : d.Agrees d') (areas : List (Option String)) :
    (d.standingIn areas).Agrees d' := h

/-- The walk over actions that stand in areas comes to the same as their checks, place by place. -/
theorem walkAll_visits {d d' : Draft τ} (h : d.Agrees d') (areas : List (Option String)) (acts : List Action) :
    (c.walkAll acts (d.standingIn areas)).1 = (c.performAll (c.visits (Action.placesAll areas acts)) d').1 ∧
      (c.walkAll acts (d.standingIn areas)).2.Agrees
        (c.performAll (c.visits (Action.placesAll areas acts)) d').2 := by
  have tasks := c.walkAll_eq acts (d.standingIn areas)
  rw [tasks, ← c.marks_tasksAll acts areas]
  exact Agrees.performAll c (agrees_standingIn h areas) _

theorem checks_bare (p : Place) : c.checks p.bare = c.checks p := by
  obtain ⟨areas, action⟩ := p
  cases action <;> rfl

theorem perform_reach_bare (a : Action) : c.perform (.reach a.bare) = c.perform (.reach a) := by
  cases a <;> rfl

/-- What is checked at a place does not depend on the body of its action. -/
theorem performAll_visits_bare (ps : List Place) :
    c.performAll (c.visits (ps.map Place.bare)) = c.performAll (c.visits ps) := by
  induction ps with
  | nil => rfl
  | cons p ps ih =>
    rw [List.map_cons, visits_cons, visits_cons, performAll_cons, performAll_cons, performAll_append,
      performAll_append, ih, checks_bare]
    congr 1
    exact c.perform_reach_bare p.action

theorem placesAll_bare (p : Place) : Action.placesAll p.areas [p.action.bare] = [p.bare] := by
  obtain ⟨areas, action⟩ := p
  cases action <;> simp [Action.placesAll, Action.places, Action.bare, Place.bare]

/-- A visit performs the checks of its place. -/
theorem visit_visits {d d' : Draft τ} (h : d.Agrees d') (p : Place) :
    (c.visit p d).1 = (c.performAll (c.visits [p]) d').1 ∧
      (c.visit p d).2.Agrees (c.performAll (c.visits [p]) d').2 := by
  have alone := c.walkAll_visits h p.areas [p.action.bare]
  rw [placesAll_bare, show [p.bare] = [p].map Place.bare from rfl, performAll_visits_bare] at alone
  exact alone

theorem visitAll_visits {d d' : Draft τ} (h : d.Agrees d') (ps : List Place) :
    (c.visitAll ps d).1 = (c.performAll (c.visits ps) d').1 ∧
      (c.visitAll ps d).2.Agrees (c.performAll (c.visits ps) d').2 := by
  induction ps generalizing d d' with
  | nil => exact ⟨rfl, h⟩
  | cons p ps ih =>
    obtain ⟨answer, same⟩ := c.visit_visits h p
    have split : c.visits (p :: ps) = c.visits [p] ++ c.visits ps := c.visits_append [p] ps
    rw [split, performAll_append]
    simp only [visitAll, List.map_cons, all, andThen]
    rcases hv : c.visit p d with ⟨_ | _, d₁⟩ <;> rcases hp : c.performAll (c.visits [p]) d' with ⟨_ | _, d₁'⟩ <;>
      rw [hv, hp] at answer same <;> cases answer
    · exact ⟨rfl, same⟩
    · exact ih same

/-- The walk over actions comes to the same as visiting their outline. -/
theorem walkAll_outline {d d' : Draft τ} (h : d.Agrees d') (areas : List (Option String)) (acts : List Action) :
    (c.walkAll acts (d.standingIn areas)).1 = (c.visitAll (Action.outline areas acts) d').1 := by
  have visits := c.visitAll_visits (show d'.Agrees d' from ⟨rfl, rfl, rfl⟩) (Action.outline areas acts)
  rw [Action.outline, performAll_visits_bare] at visits
  rw [(c.walkAll_visits h areas acts).1, Action.outline, visits.1]

/-- From a new draft, the walk fails with the error of the action that offends. -/
theorem walkAll_error_iff (tracker : τ) (acts : List Action) (err : RuleError) :
    (c.walkAll acts { tracker := tracker }).1 = .error err ↔
      ∃ before p after, Action.outline [] acts = before ++ p :: after ∧ c.Offends tracker before p err := by
  rw [show (c.walkAll acts { tracker := tracker }).1 = _ from
    c.walkAll_outline (show Draft.Agrees { tracker := tracker } _ from ⟨rfl, rfl, rfl⟩) [] acts]
  constructor
  · intro failed
    obtain ⟨before, w, after, d, split, passed, failed⟩ := all_error (Prod.ext failed rfl)
    obtain ⟨front, rest, places, rfl, tail⟩ := List.map_eq_append_iff.1 split
    obtain ⟨p, back, rfl, rfl, -⟩ := List.map_eq_cons_iff.1 tail
    exact ⟨front, p, back, places, d, passed, by rw [failed]⟩
  · rintro ⟨before, p, after, outline, d, passed, failed⟩
    rw [visitAll] at passed ⊢
    rw [outline, List.map_append, all_append]
    simp only [andThen, passed, List.map_cons, all]
    rcases hv : c.visit p d with ⟨_ | _, d₁⟩ <;> rw [hv] at failed
    · exact failed
    · cases failed

/-- An area whose own checks pass comes to what the walk over its body comes to. -/
theorem walkAll_area {p : Place} {area : Option String} {body : List Action} {d d' : Draft τ}
    (opens : p.action.area? = some (area, body)) (passed : c.visit p d = (.ok (), d')) :
    (c.walkAll [p.action] (d.standingIn p.areas)).1 = (c.walkAll body (d'.standingIn (p.areas ++ [area]))).1 := by
  have self : d.Agrees d := ⟨rfl, rfl, rfl⟩
  have places : Action.placesAll p.areas [p.action] = p :: Action.placesAll (p.areas ++ [area]) body := by
    obtain ⟨areas, action⟩ := p
    cases action <;> cases opens <;> simp [Action.placesAll, Action.places]
  obtain ⟨answer, same⟩ := c.visit_visits self p
  rw [passed] at answer same
  have split : c.visits (p :: Action.placesAll (p.areas ++ [area]) body) =
      c.visits [p] ++ c.visits (Action.placesAll (p.areas ++ [area]) body) := c.visits_append [p] _
  rw [(c.walkAll_visits self p.areas [p.action]).1, places, split, performAll_append, andThen]
  rcases hp : c.performAll (c.visits [p]) d with ⟨_ | _, d₁⟩ <;> rw [hp] at answer same
  · cases answer
  · exact (c.walkAll_visits same (p.areas ++ [area]) body).1.symm

/-! ## The position of an error -/

end Composer

/-- A check of an action, whose error names the rule and blames the right position. -/
def Task.Blames (rule : String) (a : Action) : Task → Prop
  | require _ error => error.rule = rule ∧ error.pos = a.blamed error.cause
  | declare _ field => a.field? = some field
  | checkpoint _ pos => ∀ refusal, pos = a.blamed (.checkpointViolation refusal)
  | _ => True

namespace Composer

variable {τ : Type} (c : Composer τ)

open Walk

theorem blames_literalTasks {a : Action} {pos : Pos} (h : a.pos = pos) {action : String} {limit : Limit}
    {body : Literal → List Op} : ∀ t ∈ c.literalTasks pos action limit body, t.Blames c.rule a := by
  refine List.forall_mem_cons.2 ⟨⟨rfl, h.symm⟩, fun t ht => ?_⟩
  obtain ⟨op, -, rfl⟩ := List.mem_map.1 ht
  trivial

theorem blames_captureTasks {a : Action} {field : Field} (h : a.field? = some field) (segments : List String)
    (depth : Nat) (what : Forbidden) : ∀ t ∈ c.captureTasks segments depth what field, t.Blames c.rule a := by
  simp [captureTasks, outsideTask, nameTask, Task.Blames, Action.blamed, h]

theorem blames_stepTasks (segments : List String) (depth : Nat) (pos : Pos) (s : Step) :
    ∀ t ∈ c.stepTasks segments depth pos s, t.Blames c.rule (.step pos s) := by
  cases s with
  | passUntil limit ignore =>
    refine List.forall_mem_cons.2 ⟨fun _ => rfl, ?_⟩
    split
    · simp [Task.Blames]
    · exact c.blames_literalTasks (by rfl)
  | take field limit orRest =>
    exact List.forall_mem_append.2 ⟨c.blames_captureTasks rfl segments depth .take, c.blames_literalTasks (by rfl)⟩
  | takeRest field =>
    exact List.forall_mem_append.2 ⟨c.blames_captureTasks rfl segments depth .takeRest, by simp [Task.Blames]⟩
  | _ => simp [stepTasks, Task.Blames, Action.blamed, Action.field?, Action.pos]

theorem blames_checks (p : Place) : ∀ t ∈ c.checks p, t.Blames c.rule p.action := by
  obtain ⟨areas, action⟩ := p
  cases action with
  | unnamed pos body => simp [checks]
  | named pos name body =>
    simp [checks, outsideTask, nameTask, Task.Blames, Action.blamed, Action.field?, Action.pos]
  | step pos s => exact fun t ht => c.blames_stepTasks _ _ pos s t (List.mem_filter.1 ht).1

/-- The error of an action names the rule and is located at the field that it captures, or at the action. -/
theorem blamed_of_visit {p : Place} {d : Draft τ} {err : RuleError} (h : (c.visit p d).1 = .error err) :
    err.rule = c.rule ∧ err.pos = p.action.blamed err.cause := by
  rw [(c.visit_visits (show d.Agrees d from ⟨rfl, rfl, rfl⟩) p).1] at h
  obtain ⟨before, t, after, d₁, split, -, failed⟩ := c.performAll_error (Prod.ext h rfl)
  have blames : t.Blames c.rule p.action := by
    have mem : t ∈ c.visits [p] := by simp [split]
    rw [visits_cons] at mem
    rcases List.mem_cons.1 mem with rfl | mem
    · trivial
    · exact c.blames_checks p t (by simpa [visits] using mem)
  rcases c.perform_error failed with ⟨rfl, -⟩ | ⟨path, field, earlier, rfl, rfl, -⟩ | ⟨path, pos, refusal, rfl, rfl, -⟩
  · exact blames
  · have captures : p.action.field? = some field := blames
    exact ⟨rfl, by simp [Action.blamed, captures]⟩
  · exact ⟨rfl, blames refusal⟩

/-! ## The first offence -/

theorem walkAll_append (as bs : List Action) : c.walkAll (as ++ bs) = (c.walkAll as).andThen (c.walkAll bs) := by
  induction as with
  | nil => rfl
  | cons a as ih =>
    simp only [List.cons_append, walkAll, all, ih, andThen_assoc, andThen_done]

/-- If the walk over the actions of a rule fails, then with the error of the first action that fails when those
before it have passed. The error names the rule, is located at the field of a capture unless a limit is to
blame, and else at the action. It is the error of every rule of this name that begins with the same outline, up to
this action; on the way to it, an area whose own checks pass comes to what its body comes to. Where the walk over
actions succeeds, that over the first of them does, and the operations of the former begin with those of the
latter. -/
theorem walkAll_first_offence (tracker : τ) (acts : List Action) :
    (∀ err, (c.walkAll acts { tracker := tracker }).1 = .error err →
      ∃ before p after, Action.outline [] acts = before ++ p :: after ∧ c.Offends tracker before p err ∧
        err.rule = c.rule ∧ err.pos = p.action.blamed err.cause ∧
        ∀ others, before ++ [p] <+: Action.outline [] others →
          (c.walkAll others { tracker := tracker }).1 = .error err) ∧
    (∀ (p : Place) area body d d', p.action.area? = some (area, body) → c.visit p d = (.ok (), d') →
      (c.walkAll [p.action] (d.standingIn p.areas)).1 =
        (c.walkAll body (d'.standingIn (p.areas ++ [area]))).1) ∧
    ∀ as bs d, acts = as ++ bs → c.walkAll acts { tracker := tracker } = (.ok (), d) →
      ∃ d', c.walkAll as { tracker := tracker } = (.ok (), d') ∧ d'.ops <+: d.ops := by
  refine ⟨fun err failed => ?_, fun p area body d d' => c.walkAll_area, ?_⟩
  · obtain ⟨before, p, after, outline, d, passed, own⟩ := (c.walkAll_error_iff tracker acts err).1 failed
    obtain ⟨named, located⟩ := c.blamed_of_visit own
    refine ⟨before, p, after, outline, ⟨d, passed, own⟩, named, located, fun others ⟨rest, same⟩ => ?_⟩
    exact (c.walkAll_error_iff tracker others err).2 ⟨before, p, rest, by rw [← same]; simp, d, passed, own⟩
  · rintro as bs d rfl walked
    rw [walkAll_append, andThen] at walked
    rcases ha : c.walkAll as { tracker := tracker } with ⟨_ | _, d'⟩ <;> rw [ha] at walked
    · cases walked
    · refine ⟨d', rfl, ?_⟩
      replace walked : c.walkAll bs d' = (.ok (), d) := walked
      rw [walkAll_eq] at walked
      exact ⟨_, (c.performAll_ok walked).1.symm⟩

end Composer

/-- A capture is blamed at its field for the unnamed area that it stands in, and at the action for its limit. -/
example :
    let capture : Action :=
      .step ⟨2, 3⟩ (.take { name := "id", type := .int32, pos := ⟨2, 8⟩ } { kind := .char, value := "" } false)
    (compose Recorder.emitter NamingPolicy.snake.normalize { name := "access", actions := [capture] } {}).result =
        .error ⟨"access", ⟨2, 3⟩, .malformedLimit "take" .char ""⟩ ∧
      (compose Recorder.emitter NamingPolicy.snake.normalize
          { name := "access", actions := [.unnamed ⟨2, 1⟩ [capture], capture] } {}).result =
        .error ⟨"access", ⟨2, 8⟩, .scopeViolation .take⟩ := by
  decide +kernel

end LineRules
