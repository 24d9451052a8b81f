/-
The walk over a rule's actions as a flat list of tasks. Where the walk stands when it reaches an
action is known from the tree alone: the names of the areas around the action and the number of
unnamed ones. With the place worked out beforehand, nothing is left of the tree, and the walk is the
same as performing one task after another up to the first that fails. What a walk does to its draft
is then said once for a task and carried to lists of tasks; no later proof goes through the walk
again.
-/
import LineRules.Compose

namespace LineRules

/-! ## Induction over actions -/

/-- A property of lists of actions holds if it holds of the empty list and passes from the rest of a
list, and from the body of its first action, to the list. -/
theorem Action.forest_induction {P : List Action → Prop} (nil : P [])
    (unnamed : ∀ pos body rest, P body → P rest → P (.unnamed pos body :: rest))
    (named : ∀ pos name body rest, P body → P rest → P (.named pos name body :: rest))
    (step : ∀ pos s rest, P rest → P (.step pos s :: rest)) : ∀ acts, P acts :=
  @Action.rec_1 (fun a => ∀ rest, P rest → P (a :: rest)) P
    (fun pos body hb rest hr => unnamed pos body rest hb hr)
    (fun pos name body hb rest hr => named pos name body rest hb hr)
    (fun pos s rest hr => step pos s rest hr) nil (fun _ rest ha hr => ha rest hr)

/-! ## Tasks -/

/-- What the walk does at one point of a rule, with its place worked out. -/
inductive Task
  /-- A check that depends on the rule alone. -/
  | require (holds : Bool) (error : RuleError)
  /-- The field is the first with its path. -/
  | declare (path : String) (field : Field)
  /-- The checkpoint at a path, for an action or a field at `pos`. -/
  | checkpoint (path : String) (pos : Pos)
  | emit (op : Op)
  | note (event : Event)
  | reach (action : Action)

namespace Task

/-- The operations that a task puts on the draft. -/
def ops : Task → List Op
  | checkpoint path _ => [.checkpoint path]
  | emit op => [op]
  | _ => []

/-- The path that a task registers. -/
def registered? : Task → Option String
  | checkpoint path _ => some path
  | _ => none

/-- The path that a task declares a field at. -/
def declared? : Task → Option String
  | declare path _ => some path
  | _ => none

/-- The check passes. Tasks that depend on what came before count as passed. -/
def holds : Task → Bool
  | require holds _ => holds
  | _ => true

end Task

namespace Composer

variable {τ : Type} (c : Composer τ)

open Walk

/-- A task as a piece of the walk. -/
def perform : Task → Walk τ
  | .require holds error => if holds then done else fail error
  | .declare path field => fun d =>
    match d.fields.lookup path with
    | some earlier => c.failAt field.pos (.duplicateField path earlier) d
    | none => done { d with fields := (path, field.type) :: d.fields }
  | .checkpoint path pos => fun d =>
    match c.register path d.tracker with
    | (.ok (), tracker) => Walk.emit (.checkpoint path) { d with tracker := tracker }
    | (.error e, tracker) => c.failAt pos (.checkpointViolation e) { d with tracker := tracker }
  | .emit op => Walk.emit op
  | .note event => Walk.note event
  | .reach a => c.reach a

/-- Tasks in order, up to the first that fails. -/
def performAll (ts : List Task) : Walk τ := all (ts.map c.perform)

/-! ## The tasks of a rule -/

/-- The check of a name. -/
def nameTask (what : Named) (name : String) (pos : Pos) : Task :=
  .require (c.expectedName name = name)
    ⟨c.rule, pos, .invalidIdentifier what name (c.expectedName name)⟩

/-- The check that the walk stands in no unnamed area. -/
def outsideTask (depth : Nat) (what : Forbidden) (pos : Pos) : Task :=
  .require (depth = 0) ⟨c.rule, pos, .scopeViolation what⟩

/-- The check of a limit, and the operations that need its literal. -/
def literalTasks (pos : Pos) (action : String) (limit : Limit) (body : Literal → List Op) :
    List Task :=
  .require limit.literal?.isSome ⟨c.rule, pos, .malformedLimit action limit.kind limit.value⟩ ::
    (limit.literal?.toList.flatMap body).map .emit

/-- The tasks in front of a capture's own operations. -/
def captureTasks (segments : List String) (depth : Nat) (what : Forbidden) (field : Field) :
    List Task :=
  [c.outsideTask depth what field.pos, c.nameTask .field field.name field.pos,
    .declare (Draft.pathOf (field.name :: segments)) field,
    .checkpoint (Draft.pathOf (field.name :: segments)) field.pos]

/-- The tasks of an action without a body. -/
def stepTasks (segments : List String) (depth : Nat) (pos : Pos) : Step → List Task
  | .atEnd => [.checkpoint (Draft.pathOf segments) pos, .emit .atEnd]
  | .errorOnMismatch => [.emit .stress]
  | .head literal optional =>
    [.checkpoint (Draft.pathOf segments) pos, .emit (.head literal optional)]
  | .passFirst count => [.checkpoint (Draft.pathOf segments) pos, .emit (.passFirst count)]
  | .passUntil limit ignore =>
    .checkpoint (Draft.pathOf segments) pos ::
      match limit.kind, ignore with
      | .unrecognized kind, true => [.note (.skippedPass c.rule pos kind)]
      | _, _ =>
        c.literalTasks pos (Step.passUntil limit ignore).kind limit fun literal =>
          [limit.lookup literal ignore]
  | .take field limit orRest =>
    c.captureTasks segments depth .take field ++
      c.literalTasks pos (Step.take field limit orRest).kind limit fun literal =>
        [.declareField field.name field.type field.pos,
          .takeBefore field.name field.type literal limit.lower limit.upper limit.close orRest]
  | .takeRest field =>
    c.captureTasks segments depth .takeRest field ++
      [.emit (.declareField field.name field.type field.pos),
        .emit (.takeRest field.name field.type)]

mutual

/-- The tasks of an action and of everything in its body, inside areas with the given names. -/
def tasks (segments : List String) (depth : Nat) : Action → List Task
  | .unnamed pos body =>
    .emit (.openUnnamed pos) :: (tasksAll ("" :: segments) (depth + 1) body ++
      [.emit .closeUnnamed, .note (.endOfUnnamed c.rule)])
  | .named pos name body =>
    c.outsideTask depth .namedArea pos :: c.nameTask .option name pos ::
      .checkpoint (Draft.pathOf segments) pos :: .emit (.openNamed name pos) ::
      (tasksAll (name :: segments) depth body ++
        [.emit .closeNamed, .note (.endOfNamed c.rule name)])
  | .step pos s => c.stepTasks segments depth pos s

/-- The tasks of actions in order. -/
def tasksAll (segments : List String) (depth : Nat) : List Action → List Task
  | [] => []
  | a :: rest => .reach a :: (tasks segments depth a ++ tasksAll segments depth rest)

end

/-! ## The walk performs the tasks -/

theorem performAll_nil (d : Draft τ) : c.performAll [] d = (.ok (), d) := rfl

theorem performAll_cons (t : Task) (ts : List Task) :
    c.performAll (t :: ts) = (c.perform t).andThen (c.performAll ts) := rfl

theorem performAll_singleton (t : Task) (d : Draft τ) : c.performAll [t] d = c.perform t d := by
  simp only [performAll_cons, andThen]
  rcases c.perform t d with ⟨_ | _, d⟩ <;> rfl

theorem andThen_assoc (u v w : Walk τ) : (u.andThen v).andThen w = u.andThen (v.andThen w) := by
  funext d
  simp only [andThen]
  rcases u d with ⟨_ | _, d⟩ <;> rfl

theorem performAll_append (ts us : List Task) :
    c.performAll (ts ++ us) = (c.performAll ts).andThen (c.performAll us) := by
  induction ts with
  | nil => rfl
  | cons t ts ih => rw [List.cons_append, performAll_cons, performAll_cons, ih, andThen_assoc]

end Composer

/-- The draft with the walk standing somewhere else. -/
def Draft.movedTo {τ : Type} (segments : List String) (depth : Nat) (d : Draft τ) : Draft τ :=
  { d with segments := segments, unnamedDepth := depth }

namespace Composer

variable {τ : Type} (c : Composer τ)

open Walk

/-- A task does not look at where the walk stands, and leaves it there. -/
theorem perform_movedTo (segments : List String) (depth : Nat) (t : Task) (d : Draft τ) :
    c.perform t (d.movedTo segments depth) =
      ((c.perform t d).1, (c.perform t d).2.movedTo segments depth) := by
  cases t with
  | require holds error => cases holds <;> rfl
  | declare path field =>
    simp only [perform, Draft.movedTo]
    split <;> rfl
  | checkpoint path pos =>
    simp only [perform, Draft.movedTo]
    split <;> rfl
  | emit op => rfl
  | note event => rfl
  | reach a => rfl

theorem performAll_movedTo (segments : List String) (depth : Nat) (ts : List Task) (d : Draft τ) :
    c.performAll ts (d.movedTo segments depth) =
      ((c.performAll ts d).1, (c.performAll ts d).2.movedTo segments depth) := by
  induction ts generalizing d with
  | nil => rfl
  | cons t ts ih =>
    simp only [performAll_cons, andThen, perform_movedTo]
    rcases c.perform t d with ⟨_ | _, d⟩
    · rfl
    · exact ih d

/-- Performing tasks leaves the walk where it stands. -/
theorem performAll_place (ts : List Task) (d : Draft τ) :
    (c.performAll ts d).2.segments = d.segments ∧
      (c.performAll ts d).2.unnamedDepth = d.unnamedDepth := by
  have h := c.performAll_movedTo d.segments d.unnamedDepth ts d
  rw [show d.movedTo d.segments d.unnamedDepth = d from rfl] at h
  rw [h]
  exact ⟨rfl, rfl⟩

/-- A piece of the walk performs the given tasks, if the walk stands in the given place. -/
def Does (segments : List String) (depth : Nat) (w : Walk τ) (ts : List Task) : Prop :=
  ∀ d : Draft τ, d.segments = segments → d.unnamedDepth = depth → w d = c.performAll ts d

variable {c} {segments : List String} {depth : Nat} {w : Walk τ} {ws : List (Walk τ)}
  {ts us : List Task}

theorem does_all_nil : c.Does segments depth (all []) [] := fun _ _ _ => rfl

theorem does_all_cons (hw : c.Does segments depth w ts) (hr : c.Does segments depth (all ws) us) :
    c.Does segments depth (all (w :: ws)) (ts ++ us) := by
  intro d hs hn
  rw [performAll_append]
  simp only [all, andThen, hw d hs hn]
  obtain ⟨ps, pn⟩ := c.performAll_place ts d
  rcases h : c.performAll ts d with ⟨_ | _, d'⟩
  · rfl
  · rw [h] at ps pn
    exact hr d' (ps.trans hs) (pn.trans hn)

theorem does_all_singleton (h : c.Does segments depth w ts) : c.Does segments depth (all [w]) ts := by
  simpa using does_all_cons h does_all_nil

/-- The areas that a piece stands in are left again, so entering one changes nothing but the place
its tasks are worked out for. -/
theorem does_tied (segment : String) (h : c.Does (segment :: segments) depth w ts) :
    c.Does segments depth (tied segment w) ts := by
  intro d hs hn
  -- to tie a draft is to move it, and a task does not care where the draft stands
  have ht : d.tie segment = d.movedTo (segment :: d.segments) d.unnamedDepth := rfl
  obtain ⟨ps, pn⟩ := c.performAll_place ts d
  simp only [tied, h (d.tie segment) (by rw [← hs]; rfl) hn]
  rw [ht, performAll_movedTo]
  simp only [Draft.movedTo, Draft.untie, List.tail_cons]
  rw [← ps, ← pn]

theorem does_inUnnamed (h : c.Does ("" :: segments) (depth + 1) w ts) :
    c.Does segments depth (inUnnamed w) ts := by
  intro d hs hn
  have hd : { d with unnamedDepth := d.unnamedDepth + 1 } =
      d.movedTo d.segments (d.unnamedDepth + 1) := rfl
  obtain ⟨ps, pn⟩ := c.performAll_place ts d
  simp only [inUnnamed, hd, does_tied "" h (d.movedTo d.segments (d.unnamedDepth + 1)) hs
    (by rw [← hn]; rfl)]
  rw [performAll_movedTo]
  simp only [Draft.movedTo, Nat.add_sub_cancel]
  rw [← ps, ← pn]

theorem does_perform (t : Task) : c.Does segments depth (c.perform t) [t] :=
  fun d _ _ => (c.performAll_singleton t d).symm

theorem does_outsideUnnamed (what : Forbidden) (pos : Pos) :
    c.Does segments depth (c.outsideUnnamed what pos) [c.outsideTask depth what pos] := by
  intro d _ hn
  rw [performAll_singleton]
  simp only [outsideUnnamed, outsideTask, perform, hn, failAt, decide_eq_true_eq]
  by_cases h : depth = 0
  · rw [if_neg (by omega), if_pos h]
  · rw [if_pos (by omega), if_neg h]

theorem does_checkName (what : Named) (name : String) (pos : Pos) :
    c.Does segments depth (c.checkName what name pos) [c.nameTask what name pos] := by
  intro d _ _
  rw [performAll_singleton]
  simp only [checkName, nameTask, perform, failAt, decide_eq_true_eq]

theorem does_declare (field : Field) :
    c.Does segments depth (c.declare field) [.declare (Draft.pathOf (field.name :: segments)) field] := by
  intro d hs _
  rw [performAll_singleton, ← hs]
  rfl

theorem does_checkpoint (pos : Pos) :
    c.Does segments depth (c.checkpoint pos) [.checkpoint (Draft.pathOf segments) pos] := by
  intro d hs _
  rw [performAll_singleton, ← hs]
  rfl

theorem does_emitAll (ops : List Op) :
    c.Does segments depth (all (ops.map Walk.emit)) (ops.map .emit) := by
  induction ops with
  | nil => exact does_all_nil
  | cons op ops ih => exact does_all_cons (does_perform (.emit op)) ih

theorem does_withLiteral {pos : Pos} {action : String} {limit : Limit} {body : Literal → Walk τ}
    {ops : Literal → List Op}
    (h : ∀ literal, c.Does segments depth (body literal) ((ops literal).map .emit)) :
    c.Does segments depth (c.withLiteral pos action limit body)
      (c.literalTasks pos action limit ops) := by
  intro d hs hn
  unfold withLiteral literalTasks
  cases limit.literal? with
  | none => rfl
  | some literal =>
    simp only [Option.isSome_some, Option.toList_some, List.flatMap_singleton, performAll_cons]
    exact h literal d hs hn

theorem does_capture {what : Forbidden} {field : Field}
    (h : c.Does (field.name :: segments) depth w ts) :
    c.Does segments depth (c.capture what field w) (c.captureTasks segments depth what field ++ ts) := by
  have hb := does_tied field.name (does_all_cons (does_checkpoint field.pos) (does_all_singleton h))
  have hd := does_all_cons (does_declare field) (does_all_singleton hb)
  have hn := does_all_cons (does_checkName .field field.name field.pos) hd
  have ho := does_all_cons (does_outsideUnnamed what field.pos) hn
  exact ho

theorem does_step (pos : Pos) (s : Step) :
    c.Does segments depth (c.step pos s) (c.stepTasks segments depth pos s) := by
  have scan : ∀ op, c.Does segments depth (all [c.checkpoint pos, Walk.emit op])
      [.checkpoint (Draft.pathOf segments) pos, .emit op] :=
    fun op => does_all_cons (does_checkpoint pos) (does_emitAll [op])
  cases s with
  | atEnd => exact scan .atEnd
  | errorOnMismatch => exact does_perform (.emit .stress)
  | head literal optional => exact scan (.head literal optional)
  | passFirst count => exact scan (.passFirst count)
  | passUntil limit ignore =>
    refine does_all_cons (does_checkpoint pos) (does_all_singleton ?_)
    have search : ∀ limit : Limit, c.Does segments depth
        (c.withLiteral pos (Step.passUntil limit ignore).kind limit fun literal =>
          Walk.emit (limit.lookup literal ignore))
        (c.literalTasks pos (Step.passUntil limit ignore).kind limit fun literal =>
          [limit.lookup literal ignore]) :=
      fun limit => does_withLiteral fun literal => does_perform (.emit (limit.lookup literal ignore))
    -- nowhere else does the walk look at the kind of a limit before it asks for the literal
    rcases limit with ⟨_ | _ | kind, value, lower, upper, close⟩
    · exact search _
    · exact search _
    · cases ignore
      · exact search _
      · exact does_perform (.note _)
  | take field limit orRest =>
    exact does_capture (does_withLiteral fun literal => does_emitAll [_, _])
  | takeRest field => exact does_capture (does_emitAll [_, _])

theorem does_walk_unnamed {pos : Pos} {body : List Action}
    (h : c.Does ("" :: segments) (depth + 1) (c.walkAll body) (c.tasksAll ("" :: segments) (depth + 1) body)) :
    c.Does segments depth (c.walk (.unnamed pos body)) (c.tasks segments depth (.unnamed pos body)) := by
  unfold walk tasks
  refine does_all_cons (does_perform (.emit _)) (does_all_cons (does_inUnnamed h) ?_)
  exact does_all_cons (does_perform (.emit _)) (does_all_singleton (does_perform (.note _)))

theorem does_walk_named {pos : Pos} {name : String} {body : List Action}
    (h : c.Does (name :: segments) depth (c.walkAll body) (c.tasksAll (name :: segments) depth body)) :
    c.Does segments depth (c.walk (.named pos name body)) (c.tasks segments depth (.named pos name body)) := by
  unfold walk tasks
  refine does_all_cons (does_outsideUnnamed .namedArea pos)
    (does_all_cons (does_checkName .option name pos) (does_all_cons (does_checkpoint pos) ?_))
  refine does_all_cons (does_perform (.emit _)) (does_all_cons (does_tied name h) ?_)
  exact does_all_cons (does_perform (.emit _)) (does_all_singleton (does_perform (.note _)))

theorem does_walkAll_cons {a : Action} {rest : List Action}
    (ha : c.Does segments depth (c.walk a) (c.tasks segments depth a))
    (hr : c.Does segments depth (c.walkAll rest) (c.tasksAll segments depth rest)) :
    c.Does segments depth (c.walkAll (a :: rest)) (c.tasksAll segments depth (a :: rest)) := by
  unfold walkAll tasksAll
  exact does_all_cons (does_perform (.reach a)) (does_all_cons ha (does_all_singleton hr))

/-- The walk over actions performs their tasks. -/
theorem does_walkAll (acts : List Action) :
    c.Does segments depth (c.walkAll acts) (c.tasksAll segments depth acts) := by
  -- for every place, since the body of an area is walked from inside it
  induction acts using Action.forest_induction generalizing segments depth with
  | nil =>
    unfold walkAll tasksAll
    exact does_all_nil
  | unnamed pos body rest hb hr => exact does_walkAll_cons (does_walk_unnamed hb) hr
  | named pos name body rest hb hr => exact does_walkAll_cons (does_walk_named hb) hr
  | step pos s rest hr =>
    refine does_walkAll_cons ?_ hr
    unfold walk tasks
    exact does_step pos s

variable (c) in
/-- The walk over actions is the same as performing their tasks, whatever the draft. -/
theorem walkAll_eq (acts : List Action) (d : Draft τ) :
    c.walkAll acts d = c.performAll (c.tasksAll d.segments d.unnamedDepth acts) d :=
  does_walkAll acts d rfl rfl

end Composer

end LineRules
