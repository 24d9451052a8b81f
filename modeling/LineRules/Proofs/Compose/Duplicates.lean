/-
When a field is declared twice. The walk compares fields by the texts of their qualified paths, with
empty segments left out. Names that pass their checks are not empty and hold no dot, so the texts stand
for their segments, and two captures are taken for the same field exactly if they stand in areas of the
same names and have the same name themselves. Which actions the walk has reached can be told from the
journal, which has an entry for each of them. Main statement: composing fails for a field declared twice
at a capture that the walk has reached exactly if an earlier capture has the same names around it and
the same name, and the error then gives the type of the earlier field.
-/
import LineRules.Proofs.Compose.WellFormed
import Mathlib.Data.List.Nodup

namespace LineRules

/-! ## Reached actions -/

/-- The entry says that an action is reached. -/
def Event.isDispatch : Event → Bool
  | dispatch .. => true
  | _ => false

/-- How many actions were reached. -/
def Event.dispatched (journal : List Event) : Nat := journal.countP isDispatch

/-- How many actions of the rule were reached. -/
def Composed.reached {σ : Type} (o : Composed σ) : Nat := Event.dispatched o.journal

namespace Task

/-- The task notes that an action is reached. -/
def dispatches : Task → Bool
  | reach _ => true
  | note event => event.isDispatch
  | _ => false

/-- What a task adds to the fields of a draft. -/
def field? : Task → Option (String × FieldType)
  | declare path field => some (path, field.type)
  | _ => none

/-- The task checks something, or notes that an action is reached. -/
def marks (t : Task) : Bool := t.isCheck || t.dispatches

end Task

/-- What a draft knows of the walk so far: the tracker, the fields, and how many actions were reached. -/
def Draft.Agrees {τ : Type} (d d' : Draft τ) : Prop :=
  d.tracker = d'.tracker ∧ d.fields = d'.fields ∧ Event.dispatched d.journal = Event.dispatched d'.journal

theorem Draft.Agrees.trans {τ : Type} {d d' d'' : Draft τ} (h : d.Agrees d') (h' : d'.Agrees d'') : d.Agrees d'' :=
  ⟨h.1.trans h'.1, h.2.1.trans h'.2.1, h.2.2.trans h'.2.2⟩

namespace Composer

variable {τ : Type} (c : Composer τ)

open Walk

/-- The tasks of actions where they stand, of which only the checks are left. -/
def visits (ps : List Place) : List Task := ps.flatMap fun p => .reach p.action :: c.checks p

theorem visits_append (ps qs : List Place) : c.visits (ps ++ qs) = c.visits ps ++ c.visits qs :=
  List.flatMap_append

theorem visits_cons (p : Place) (ps : List Place) :
    c.visits (p :: ps) = .reach p.action :: (c.checks p ++ c.visits ps) := rfl

theorem dispatched_append (xs ys : List Event) :
    Event.dispatched (xs ++ ys) = Event.dispatched xs + Event.dispatched ys := List.countP_append

/-- A task notes an action or none, whether it succeeds or not. -/
theorem dispatched_perform (t : Task) (d : Draft τ) :
    Event.dispatched (c.perform t d).2.journal =
      Event.dispatched d.journal + if t.dispatches then 1 else 0 := by
  cases t with
  | require holds error => cases holds <;> rfl
  | declare path field =>
    simp only [perform]
    split <;> rfl
  | checkpoint path pos =>
    simp only [perform]
    split <;> rfl
  | emit op => rfl
  | note event =>
    simp only [perform, Walk.note, update, Draft.note, dispatched_append, Task.dispatches]
    rw [Event.dispatched, Event.dispatched, List.countP_singleton]
    rfl
  | reach a =>
    simp only [perform, reach, Walk.note, update, Draft.note, dispatched_append, Task.dispatches]
    rfl

/-- Where drafts agree, a task comes to the same. -/
theorem Agrees.perform {d d' : Draft τ} (h : d.Agrees d') (t : Task) :
    (c.perform t d).1 = (c.perform t d').1 ∧ (c.perform t d).2.Agrees (c.perform t d').2 := by
  obtain ⟨tracker, fields, count⟩ := h
  have counts := c.dispatched_perform t d
  rw [count, ← c.dispatched_perform t d'] at counts
  cases t with
  | require holds error => cases holds <;> exact ⟨rfl, tracker, fields, counts⟩
  | declare path field =>
    simp only [Composer.perform, fields] at counts ⊢
    split
    · exact ⟨rfl, tracker, fields, count⟩
    · exact ⟨rfl, tracker, rfl, count⟩
  | checkpoint path pos =>
    simp only [Composer.perform, tracker] at counts ⊢
    split
    · exact ⟨rfl, rfl, fields, count⟩
    · exact ⟨rfl, rfl, fields, count⟩
  | emit op => exact ⟨rfl, tracker, fields, counts⟩
  | note event => exact ⟨rfl, tracker, fields, counts⟩
  | reach a => exact ⟨rfl, tracker, fields, counts⟩

/-- A task that neither checks nor notes an action tells nothing of the walk. -/
theorem agrees_of_not_marks {t : Task} (h : t.marks = false) (d : Draft τ) :
    (c.perform t d).1 = .ok () ∧ (c.perform t d).2.Agrees d := by
  have counts := c.dispatched_perform t d
  rw [Task.marks, Bool.or_eq_false_iff] at h
  rw [h.2] at counts
  cases t with
  | require holds error => cases h.1
  | declare path field => cases h.1
  | checkpoint path pos => cases h.1
  | emit op => exact ⟨rfl, rfl, rfl, counts⟩
  | note event => exact ⟨rfl, rfl, rfl, counts⟩
  | reach a => cases h.2

/-- Of the tasks only those count for the course of the walk that check or note an action. -/
theorem Agrees.performAll {d d' : Draft τ} (h : d.Agrees d') (ts : List Task) :
    (c.performAll ts d).1 = (c.performAll (ts.filter Task.marks) d').1 ∧
      (c.performAll ts d).2.Agrees (c.performAll (ts.filter Task.marks) d').2 := by
  induction ts generalizing d d' with
  | nil => exact ⟨rfl, h⟩
  | cons t ts ih =>
    rw [performAll_cons, List.filter_cons]
    cases ht : t.marks with
    | false =>
      obtain ⟨ok, same⟩ := c.agrees_of_not_marks ht d
      simp only [andThen, Bool.false_eq_true, if_false]
      rcases hp : c.perform t d with ⟨_ | _, d₁⟩ <;> rw [hp] at ok same
      · cases ok
      · exact ih (same.trans h)
    | true =>
      obtain ⟨answer, same⟩ := Agrees.perform c h t
      simp only [if_true, performAll_cons, andThen]
      rcases hp : c.perform t d with ⟨_ | _, d₁⟩ <;> rcases hp' : c.perform t d' with ⟨_ | _, d₁'⟩ <;>
        rw [hp, hp'] at answer same <;> cases answer
      · exact ⟨rfl, same⟩
      · exact ih same

theorem not_dispatches_literalTasks {pos : Pos} {action : String} {limit : Limit} {body : Literal → List Op} :
    ∀ t ∈ c.literalTasks pos action limit body, t.dispatches = false := by
  refine List.forall_mem_cons.2 ⟨rfl, fun t ht => ?_⟩
  obtain ⟨op, -, rfl⟩ := List.mem_map.1 ht
  rfl

/-- An action without a body is noted when it is reached, and none of its own tasks does so again. -/
theorem not_dispatches_stepTasks (segments : List String) (depth : Nat) (pos : Pos) (s : Step) :
    ∀ t ∈ c.stepTasks segments depth pos s, t.dispatches = false := by
  have capture : ∀ what field, ∀ t ∈ c.captureTasks segments depth what field, t.dispatches = false := by
    simp [captureTasks, outsideTask, nameTask, Task.dispatches]
  cases s with
  | passUntil limit ignore =>
    refine List.forall_mem_cons.2 ⟨rfl, ?_⟩
    split
    · simp [Task.dispatches, Event.isDispatch]
    · exact c.not_dispatches_literalTasks
  | take field limit orRest =>
    exact List.forall_mem_append.2 ⟨capture .take field, c.not_dispatches_literalTasks⟩
  | takeRest field =>
    exact List.forall_mem_append.2 ⟨capture .takeRest field, by simp [Task.dispatches]⟩
  | _ => simp [stepTasks, Task.dispatches]

theorem filter_marks_eq {ts : List Task} (h : ∀ t ∈ ts, t.dispatches = false) :
    ts.filter Task.marks = ts.filter Task.isCheck := by
  refine List.filter_congr fun t ht => ?_
  rw [Task.marks, h t ht, Bool.or_false]

/-- The walk visits the actions where they stand, in order. -/
theorem marks_tasksAll (acts : List Action) (areas : List (Option String)) :
    (c.tasksAll (Draft.segmentsOf areas) (areas.count none) acts).filter Task.marks =
      c.visits (Action.placesAll areas acts) := by
  induction acts using Action.forest_induction generalizing areas with
  | nil => simp [tasksAll, Action.placesAll, visits]
  | unnamed pos body rest hb hr =>
    have hb := hb (areas ++ [none])
    rw [segmentsOf_append, List.count_append] at hb
    simp only [tasksAll, tasks, Action.placesAll, Action.places, List.filter_cons, List.filter_append,
      visits_append, visits_cons, hr areas, ← hb]
    simp [Task.marks, Task.isCheck, Task.dispatches, Event.isDispatch, checks]
  | named pos name body rest hb hr =>
    have hb := hb (areas ++ [some name])
    rw [segmentsOf_append, List.count_append] at hb
    simp only [tasksAll, tasks, Action.placesAll, Action.places, List.filter_cons, List.filter_append,
      visits_append, visits_cons, hr areas, ← hb]
    simp [Task.marks, Task.isCheck, Task.dispatches, Event.isDispatch, checks, outsideTask, nameTask]
  | step pos s rest hr =>
    have own := filter_marks_eq
      (c.not_dispatches_stepTasks (Draft.segmentsOf areas) (areas.count none) pos s)
    simp only [tasksAll, tasks, Action.placesAll, Action.places, List.filter_cons, List.filter_append,
      visits_append, visits_cons, hr areas, own]
    simp [Task.marks, Task.dispatches, checks, visits]

/-! ## Visits -/

theorem dispatches_of_mem_checks {p : Place} {t : Task} (h : t ∈ c.checks p) : t.dispatches = false := by
  obtain ⟨areas, action⟩ := p
  cases action with
  | unnamed pos body => simp [checks] at h
  | named pos name body =>
    simp only [checks, outsideTask, nameTask, List.mem_cons, List.not_mem_nil, or_false] at h
    rcases h with rfl | rfl | rfl <;> rfl
  | step pos s => exact c.not_dispatches_stepTasks _ _ pos s t (List.mem_filter.1 h).1

theorem dispatched_performAll_le (ts : List Task) (d : Draft τ) :
    Event.dispatched (c.performAll ts d).2.journal ≤
      Event.dispatched d.journal + ts.countP Task.dispatches := by
  induction ts generalizing d with
  | nil => exact Nat.le_refl _
  | cons t ts ih =>
    have first := c.dispatched_perform t d
    simp only [performAll_cons, andThen, List.countP_cons]
    rcases hp : c.perform t d with ⟨_ | _, d₁⟩ <;> rw [hp] at first
    · simp only [first]
      omega
    · have rest := ih d₁
      simp only [first] at rest ⊢
      omega

/-- Tasks that succeed have noted every action that they were to note. -/
theorem dispatched_performAll_ok {ts : List Task} {d d' : Draft τ} (h : c.performAll ts d = (.ok (), d')) :
    Event.dispatched d'.journal = Event.dispatched d.journal + ts.countP Task.dispatches := by
  induction ts generalizing d with
  | nil => cases h; rfl
  | cons t ts ih =>
    have first := c.dispatched_perform t d
    simp only [performAll_cons, andThen, List.countP_cons] at h ⊢
    rcases hp : c.perform t d with ⟨_ | _, d₁⟩ <;> rw [hp] at h first
    · cases h
    · rw [ih h, first]
      omega

theorem countP_dispatches_checks (p : Place) : (c.checks p).countP Task.dispatches = 0 :=
  List.countP_eq_zero.2 fun t ht => by rw [c.dispatches_of_mem_checks ht]; exact Bool.false_ne_true

theorem countP_dispatches_visits (ps : List Place) : (c.visits ps).countP Task.dispatches = ps.length := by
  induction ps with
  | nil => rfl
  | cons p ps ih =>
    rw [visits_cons, List.countP_cons, List.countP_append, ih, countP_dispatches_checks]
    simp [Task.dispatches]

/-- Tasks that succeed have added their fields to those of the draft, the latest in front. -/
theorem fields_performAll_ok {ts : List Task} {d d' : Draft τ} (h : c.performAll ts d = (.ok (), d')) :
    d'.fields = (ts.filterMap Task.field?).reverse ++ d.fields := by
  induction ts generalizing d with
  | nil => cases h; rfl
  | cons t ts ih =>
    simp only [performAll_cons, andThen] at h
    rcases hp : c.perform t d with ⟨_ | _, d₁⟩ <;> rw [hp] at h
    · cases h
    · have first : d₁.fields = t.field?.toList ++ d.fields := by
        cases t with
        | require holds error =>
          cases holds <;> cases hp
          rfl
        | declare path field =>
          simp only [perform] at hp
          split at hp <;> cases hp
          rfl
        | checkpoint path pos =>
          simp only [perform] at hp
          split at hp <;> cases hp
          rfl
        | emit op => cases hp; rfl
        | note event => cases hp; rfl
        | reach a => cases hp; rfl
      rw [ih h, first, List.filterMap_cons]
      cases t.field? <;> simp

theorem dispatched_le_performAll (ts : List Task) (d : Draft τ) :
    Event.dispatched d.journal ≤ Event.dispatched (c.performAll ts d).2.journal := by
  induction ts generalizing d with
  | nil => exact Nat.le_refl _
  | cons t ts ih =>
    have first := c.dispatched_perform t d
    simp only [performAll_cons, andThen]
    rcases hp : c.perform t d with ⟨_ | _, d₁⟩ <;> rw [hp] at first
    · simp only [first]
      omega
    · have rest := ih d₁
      simp only [first] at rest ⊢
      omega

/-- Going to a place counts its action and leaves the fields as they are. -/
theorem performAll_visits_cons (p : Place) (ps : List Place) (d : Draft τ) :
    ∃ d₁, c.performAll (c.visits (p :: ps)) d = c.performAll (c.checks p ++ c.visits ps) d₁ ∧
      d₁.fields = d.fields ∧ Event.dispatched d₁.journal = Event.dispatched d.journal + 1 :=
  ⟨(c.perform (.reach p.action) d).2, rfl, rfl, c.dispatched_perform (.reach p.action) d⟩

/-- If more actions are reached than stand before a place, then all of those have passed their checks, and
the walk goes on from there. -/
theorem passed_of_reached {before ps : List Place} {d : Draft τ} (new : Event.dispatched d.journal = 0)
    (h : before.length < Event.dispatched (c.performAll (c.visits (before ++ ps)) d).2.journal) :
    ∃ d₁, c.performAll (c.visits before) d = (.ok (), d₁) ∧
      c.performAll (c.visits (before ++ ps)) d = c.performAll (c.visits ps) d₁ := by
  rw [visits_append, performAll_append, andThen] at h ⊢
  have bound := c.dispatched_performAll_le (c.visits before) d
  rw [new, countP_dispatches_visits] at bound
  rcases hb : c.performAll (c.visits before) d with ⟨_ | _, d₁⟩ <;> rw [hb] at h bound
  · simp only at h bound
    omega
  · exact ⟨d₁, rfl, rfl⟩

end Composer

/-! ## Captures -/

namespace Place

/-- The text of the path at which a field is captured here. -/
def fieldPath (p : Place) (field : Field) : String := Draft.pathOf (field.name :: Draft.segmentsOf p.areas)

/-- What is entered among the fields of the draft here. -/
def entry? (p : Place) : Option (String × FieldType) :=
  p.action.field?.map fun field => (p.fieldPath field, field.type)

theorem fieldPath_eq {p : Place} {field : Field} (h : Path.Segmented (p.names ++ [field.name])) :
    p.fieldPath field = Path.join (p.names ++ [field.name]) := by
  rw [fieldPath, Composer.pathOf_cons_segmentsOf]
  exact congrArg Path.join (List.filter_eq_self.2 fun name hn => by simpa using (h name hn).1)

end Place

namespace Composer

variable {τ : Type} (c : Composer τ) {p : Place} {field : Field}

open Walk

/-- The checks of a capture: those of every capture, and perhaps that of its limit. -/
theorem checks_of_capture (h : p.action.field? = some field) :
    ∃ what rest, c.checks p =
        c.captureTasks (Draft.segmentsOf p.areas) (p.areas.count none) what field ++ rest ∧
      ∀ t ∈ rest, ∃ holds pos action kind value,
        t = .require holds ⟨c.rule, pos, .malformedLimit action kind value⟩ := by
  obtain ⟨areas, action⟩ := p
  cases action with
  | unnamed pos body => cases h
  | named pos name body => cases h
  | step pos s =>
    cases s with
    | take taken limit orRest =>
      obtain rfl : taken = field := Option.some.inj h
      refine ⟨.take, (c.literalTasks pos (Step.take taken limit orRest).kind limit _).filter Task.isCheck, rfl, ?_⟩
      intro t ht
      obtain ⟨mem, check⟩ := List.mem_filter.1 ht
      rcases List.mem_cons.1 mem with rfl | mem
      · exact ⟨_, _, _, _, _, rfl⟩
      · -- the operations are not checked
        obtain ⟨op, -, rfl⟩ := List.mem_map.1 mem
        cases check
    | takeRest taken =>
      obtain rfl : taken = field := Option.some.inj h
      exact ⟨.takeRest, [], rfl, by simp⟩
    | _ => cases h

theorem filterMap_declared (ts : List Task) :
    ts.filterMap Task.declared? = (ts.filterMap Task.field?).map Prod.fst := by
  rw [List.map_filterMap]
  congr 1
  funext t
  cases t <;> rfl

/-- An action enters the field that it captures. -/
theorem field_checks (p : Place) : (c.checks p).filterMap Task.field? = p.entry?.toList := by
  cases h : p.action.field? with
  | none =>
    have none := c.declared_checks p
    rw [filterMap_declared, Place.captured?, h] at none
    rw [List.map_eq_nil_iff.1 none, Place.entry?, h]
    rfl
  | some field =>
    obtain ⟨what, rest, checks, limit⟩ := c.checks_of_capture h
    have others : rest.filterMap Task.field? = [] := by
      refine List.filterMap_eq_nil_iff.2 fun t ht => ?_
      obtain ⟨holds, pos, action, kind, value, rfl⟩ := limit t ht
      rfl
    rw [checks, List.filterMap_append, others, Place.entry?, h]
    rfl

theorem field_visits (ps : List Place) : (c.visits ps).filterMap Task.field? = ps.filterMap Place.entry? := by
  induction ps with
  | nil => rfl
  | cons p ps ih =>
    rw [visits_cons, List.filterMap_cons_none rfl, List.filterMap_append, field_checks, ih, List.filterMap_cons]
    cases p.entry? <;> rfl

/-- A capture whose path is taken fails for that reason. -/
theorem performAll_duplicate {d : Draft τ} {earlier : FieldType} (ts : List Task) (h : p.action.field? = some field)
    (outside : none ∉ p.areas) (name : c.expectedName field.name = field.name)
    (taken : d.fields.lookup (p.fieldPath field) = some earlier) :
    c.performAll (c.checks p ++ ts) d =
      (.error ⟨c.rule, field.pos, .duplicateField (p.fieldPath field) earlier⟩, d) := by
  obtain ⟨what, rest, checks, -⟩ := c.checks_of_capture h
  have depth : p.areas.count none = 0 := List.count_eq_zero.2 outside
  rw [Place.fieldPath] at taken
  rw [checks, depth, Place.fieldPath]
  simp [captureTasks, outsideTask, nameTask, performAll_cons, perform, andThen, done, fail, failAt, name, taken]

/-- A capture whose path is new may still fail, but for another reason. -/
theorem performAll_new {d d' : Draft τ} {err : RuleError} (h : p.action.field? = some field)
    (new : d.fields.lookup (p.fieldPath field) = none) (failed : c.performAll (c.checks p) d = (.error err, d'))
    (path : String) (type : FieldType) : err.cause ≠ .duplicateField path type := by
  obtain ⟨what, rest, checks, limit⟩ := c.checks_of_capture h
  obtain ⟨before, t, after, d₁, split, passed, failed⟩ := c.performAll_error failed
  rcases c.perform_error failed with ⟨rfl, -⟩ | ⟨path', field', earlier, rfl, -, -⟩ | ⟨path', pos, e, -, rfl, -⟩
  · have mem : Task.require false err ∈ c.checks p := by simp [split]
    rw [checks, List.mem_append] at mem
    rcases mem with mem | mem
    · simp only [captureTasks, outsideTask, nameTask, List.mem_cons, Task.require.injEq, reduceCtorEq,
        List.not_mem_nil, or_false] at mem
      rcases mem with ⟨-, rfl⟩ | ⟨-, rfl⟩ <;> exact fun he => by cases he
    · obtain ⟨holds, pos, action, kind, value, he⟩ := limit _ mem
      obtain ⟨-, rfl⟩ := Task.require.inj he
      exact fun he => by cases he
  · -- the one declaration of the capture finds the fields as they were, and its path is not among them
    have entries := c.field_checks p
    rw [split, List.filterMap_append, List.filterMap_cons, Place.entry?, h] at entries
    have own : before.filterMap Task.field? = [] ∧ path' = p.fieldPath field := by
      rcases List.append_eq_singleton_iff.1 entries with ⟨none, own⟩ | ⟨-, none⟩
      · exact ⟨none, congrArg Prod.fst (List.cons.inj own).1⟩
      · cases none
    have fields := c.fields_performAll_ok passed
    rw [own.1, List.reverse_nil, List.nil_append] at fields
    simp only [perform, fields, own.2, new] at failed
    cases failed
  · exact fun he => by cases he

end Composer

/-! ## The walk of a rule -/

/-- The outcome of composing is that of a walk: if the walk fails, then with its error, and otherwise only the
emitter can still refuse. -/
structure Composed.Follows {σ τ : Type} (o : Composed σ) (w : Except RuleError Unit × Draft τ) : Prop where
  reached : o.reached = Event.dispatched w.2.journal
  failed : ∀ err, w.1 = .error err → o.result = .error err
  passed : w.1 = .ok () → ∀ err, o.result = .error err → ∃ refusal, err.cause = .emitterRejection refusal

section

variable {σ γ : Type} (e : Emitter σ γ) (normalize : String → String) (rule : Rule)

/-- The walk of a rule visits its places. -/
theorem performAll_tasks (d : Draft (γ × σ)) :
    ((e.composer normalize rule).performAll (e.tasks normalize rule) d).1 =
        ((e.composer normalize rule).performAll ((e.composer normalize rule).visits rule.places) d).1 ∧
      Event.dispatched ((e.composer normalize rule).performAll (e.tasks normalize rule) d).2.journal =
        Event.dispatched
          ((e.composer normalize rule).performAll ((e.composer normalize rule).visits rule.places) d).2.journal := by
  have marks : (e.tasks normalize rule).filter Task.marks = (e.composer normalize rule).visits rule.places :=
    (e.composer normalize rule).marks_tasksAll rule.actions []
  obtain ⟨same, agree⟩ := Composer.Agrees.performAll (e.composer normalize rule)
    (show d.Agrees d from ⟨rfl, rfl, rfl⟩) (e.tasks normalize rule)
  rw [marks] at same agree
  exact ⟨same, agree.2.2⟩

/-- Composing a rule reaches no action, or goes the way of the visits to its places. -/
theorem compose_follows (s : σ) :
    (compose e normalize rule s).reached = 0 ∨
    ∃ tracker s', (compose e normalize rule s).Follows
      ((e.composer normalize rule).performAll ((e.composer normalize rule).visits rule.places)
        (Emitter.draft tracker s')) := by
  -- the entries that composing makes itself are about the rule, not about its actions
  have own : ∀ start journal, Event.isDispatch start = false →
      Event.dispatched (start :: journal) = Event.dispatched journal := by
    intro start journal h
    simp [Event.dispatched, h]
  rcases hb : e.beginRule rule.name rule.pos s with ⟨err | tracker, s'⟩
  · exact .inl (by simp only [compose, hb]; rfl)
  · refine .inr ⟨tracker, s', ?_⟩
    obtain ⟨answer, count⟩ := performAll_tasks e normalize rule (Emitter.draft tracker s')
    rcases hw : (e.composer normalize rule).performAll (e.tasks normalize rule) (Emitter.draft tracker s') with
      ⟨err | _, d⟩ <;> rw [hw] at answer count
    · simp only [compose, hb, compose_walk, hw]
      refine ⟨?_, ?_, ?_⟩
      · rw [← count, Composed.reached, Composer.dispatched_append, own _ _ rfl]
        rfl
      · rw [← answer]
        rintro _ ⟨⟩
        rfl
      · rw [← answer]
        rintro ⟨⟩
    · rcases hc : e.commit d.ops d.tracker.2 with ⟨err | _, s''⟩ <;> simp only [compose, hb, compose_walk, hw, hc]
      · refine ⟨?_, ?_, ?_⟩
        · rw [← count, Composed.reached, own _ _ rfl]
        · rw [← answer]
          rintro _ ⟨⟩
        · rintro - _ ⟨⟩
          exact ⟨err, rfl⟩
      · refine ⟨?_, ?_, ?_⟩
        · rw [← count, Composed.reached, Composer.dispatched_append, own _ _ rfl]
          rfl
        · rw [← answer]
          rintro _ ⟨⟩
        · rintro - _ ⟨⟩

/-- A capture that composing a rule has reached, outside unnamed areas and with a name that passes the check;
the actions before it, in the order in which they are reached. -/
structure ReachedCapture (s : σ) (before : List Place) (p : Place) (field : Field) : Prop where
  reached : before ++ [p] <+: rule.places.take (compose e normalize rule s).reached
  captures : p.action.field? = some field
  outside : none ∉ p.areas
  named : ∀ d, ((e.composer normalize rule).checkName .field field.name field.pos d).1 = .ok ()

end

section

variable {σ γ : Type} {e : Emitter σ γ} {policy : NamingPolicy} {rule : Rule} {s : σ} {before : List Place}
  {p : Place} {field : Field}

/-- A name that passes the check can be a segment of a path. -/
theorem segment_of_checkName {τ : Type} {c : Composer τ} (h : c.normalize = policy.normalize) {name : String}
    (own : c.expectedName name = name) : name ≠ "" ∧ '.' ∉ name.toList := by
  obtain ⟨ne, normal⟩ := (Composer.expectedName_eq_iff h name).1 own
  exact ⟨ne, normal ▸ policy.dot_notMem_normalize name⟩

/-- What composing has done when it has reached an action: those before it have passed, their fields are
entered, and the walk goes on at the action. -/
theorem visits_of_reached (h : before ++ [p] <+: rule.places.take (compose e policy.normalize rule s).reached) :
    ∃ d after, (∃ start, start.fields = [] ∧ Event.dispatched start.journal = 0 ∧
        (e.composer policy.normalize rule).performAll ((e.composer policy.normalize rule).visits before) start =
          (.ok (), d)) ∧
      (compose e policy.normalize rule s).Follows
        ((e.composer policy.normalize rule).performAll
          ((e.composer policy.normalize rule).visits (p :: after)) d) := by
  obtain ⟨after, places⟩ := h.trans (List.take_prefix _ _)
  rw [List.append_assoc, List.singleton_append] at places
  have long : before.length < (compose e policy.normalize rule s).reached := by
    have := h.length_le
    rw [List.length_append, List.length_take, List.length_singleton] at this
    omega
  rcases compose_follows e policy.normalize rule s with none | ⟨tracker, s', follows⟩
  · omega
  · rw [follows.reached, ← places] at long
    obtain ⟨d, passed, rest⟩ := (e.composer policy.normalize rule).passed_of_reached rfl long
    rw [← places, rest] at follows
    exact ⟨d, after, ⟨_, rfl, rfl, passed⟩, follows⟩

/-- In front of an action that is reached, all actions have passed their checks. -/
theorem holds_of_reached (h : before ++ [p] <+: rule.places.take (compose e policy.normalize rule s).reached) :
    ∀ q ∈ before, ((e.composer policy.normalize rule).checks q).all Task.holds = true := by
  obtain ⟨d, after, ⟨start, -, -, passed⟩, -⟩ := visits_of_reached h
  have holds := ((e.composer policy.normalize rule).performAll_ok_iff _ start).1 (congrArg Prod.fst passed)
  intro q hq
  refine List.all_eq_true.2 fun t ht => List.all_eq_true.1 holds.1 t ?_
  exact List.mem_flatMap.2 ⟨q, hq, List.mem_cons_of_mem _ ht⟩

/-- The names around an action that is reached can be segments of a path. -/
theorem segmented_of_reached
    (h : before ++ [p] <+: rule.places.take (compose e policy.normalize rule s).reached) :
    Path.Segmented p.names := by
  intro name hn
  have here : before ++ [p] <+: rule.places := h.trans (List.take_prefix _ _)
  rcases Action.mem_names_before rule.actions [] here hn with none | ⟨q, hq, hname⟩
  · cases none
  · obtain ⟨-, own, -⟩ := ((e.composer policy.normalize rule).holds_checks q).1 (holds_of_reached h q hq)
    exact segment_of_checkName rfl (own name hname)

/-- An earlier action that captures a field has been reached too. -/
theorem ReachedCapture.earlier {q : Place} {other : Field}
    (h : ReachedCapture e policy.normalize rule s before p field) (hq : q ∈ before)
    (captures : q.action.field? = some other) :
    ∃ front, ReachedCapture e policy.normalize rule s front q other := by
  obtain ⟨front, back, rfl⟩ := List.append_of_mem hq
  have name := Action.name?_of_field? captures
  obtain ⟨outside, own, -⟩ := ((e.composer policy.normalize rule).holds_checks q).1
    (holds_of_reached h.reached q hq)
  refine ⟨front, ?_, captures, outside (by simp [name]), fun d => Composer.checkName_ok_iff.2 (own _ name)⟩
  refine List.IsPrefix.trans ?_ h.reached
  rw [List.append_assoc, List.cons_append]
  exact ⟨back ++ [p], by simp⟩

theorem ReachedCapture.segmented (h : ReachedCapture e policy.normalize rule s before p field) :
    Path.Segmented (p.names ++ [field.name]) := by
  refine List.forall_mem_append.2 ⟨segmented_of_reached h.reached, List.forall_mem_singleton.2 ?_⟩
  obtain ⟨d, -⟩ := visits_of_reached h.reached
  exact segment_of_checkName rfl (Composer.checkName_ok_iff.1 (h.named d))

/-- The texts of paths stand for their segments. -/
theorem ReachedCapture.fieldPath_eq_iff {before' : List Place} {q : Place} {other : Field}
    (hp : ReachedCapture e policy.normalize rule s before p field)
    (hq : ReachedCapture e policy.normalize rule s before' q other) :
    p.fieldPath field = q.fieldPath other ↔ p.names = q.names ∧ field.name = other.name := by
  rw [Place.fieldPath_eq hp.segmented, Place.fieldPath_eq hq.segmented]
  constructor
  · intro h
    obtain ⟨names, name⟩ := List.append_inj' (Path.join_injective hp.segmented hq.segmented h) rfl
    exact ⟨names, List.singleton_inj.1 name⟩
  · rintro ⟨names, name⟩
    rw [names, name]

/-- Where no key comes twice, the entries are what is looked up. -/
theorem lookup_eq_some_iff_mem {fields : List (String × FieldType)} (h : (fields.map Prod.fst).Nodup) {path : String}
    {type : FieldType} : fields.lookup path = some type ↔ (path, type) ∈ fields := by
  constructor
  · intro found
    obtain ⟨front, back, rfl, -⟩ := List.lookup_eq_some_iff.1 found
    exact List.mem_append_right _ List.mem_cons_self
  · intro mem
    cases found : fields.lookup path with
    | none => exact absurd (List.mem_map.2 ⟨_, mem, rfl⟩) (Composer.lookup_eq_none_iff.1 found)
    | some other =>
      obtain ⟨front, back, rfl, -⟩ := List.lookup_eq_some_iff.1 found
      have same := List.inj_on_of_nodup_map h mem (List.mem_append_right _ List.mem_cons_self) rfl
      rw [(Prod.mk.inj same).2]

/-- What is entered when a capture is reached: the fields of the earlier captures, each under a path of its
own. -/
theorem ReachedCapture.lookup_eq_some_iff {start d : Draft (γ × σ)} {type : FieldType}
    (h : ReachedCapture e policy.normalize rule s before p field) (empty : start.fields = [])
    (passed : (e.composer policy.normalize rule).performAll ((e.composer policy.normalize rule).visits before)
      start = (.ok (), d)) :
    d.fields.lookup (p.fieldPath field) = some type ↔
      ∃ q ∈ before, ∃ other, q.action.field? = some other ∧ q.names = p.names ∧ other.name = field.name ∧
        other.type = type := by
  have fields := (e.composer policy.normalize rule).fields_performAll_ok passed
  have fresh := ((e.composer policy.normalize rule).performAll_ok_iff _ start).1 (congrArg Prod.fst passed)
  rw [Composer.field_visits, empty, List.append_nil] at fields
  have keys : (d.fields.map Prod.fst).Nodup := by
    rw [fields, List.map_reverse, List.nodup_reverse, ← Composer.field_visits, ← Composer.filterMap_declared]
    exact fresh.2.1.1
  rw [lookup_eq_some_iff_mem keys, fields, List.mem_reverse, List.mem_filterMap]
  constructor
  · rintro ⟨q, hq, entry⟩
    obtain ⟨other, captures, same⟩ := Option.map_eq_some_iff.1 entry
    obtain ⟨path, rfl⟩ := Prod.mk.inj same
    obtain ⟨front, reached⟩ := h.earlier hq captures
    obtain ⟨names, name⟩ := (reached.fieldPath_eq_iff h).1 path
    exact ⟨q, hq, other, captures, names, name, rfl⟩
  · rintro ⟨q, hq, other, captures, names, name, rfl⟩
    obtain ⟨front, reached⟩ := h.earlier hq captures
    refine ⟨q, hq, ?_⟩
    rw [Place.entry?, captures, Option.map_some, (reached.fieldPath_eq_iff h).2 ⟨names, name⟩]

/-- Composing ends at the action behind the given ones, with a field declared twice at the position. -/
def Composed.EndsInDuplicate (o : Composed σ) (before : List Place) (rule : String) (pos : Pos) : Prop :=
  o.reached = before.length + 1 ∧ ∃ path type, o.result = .error ⟨rule, pos, .duplicateField path type⟩

section

variable {c : Composer (γ × σ)} {o : Composed σ} {d : Draft (γ × σ)} {after : List Place}

/-- A capture whose path is taken is the end of the walk. -/
theorem fails_of_taken {earlier : FieldType} (count : Event.dispatched d.journal = before.length)
    (follows : o.Follows (c.performAll (c.visits (p :: after)) d)) (captures : p.action.field? = some field)
    (outside : none ∉ p.areas) (name : c.expectedName field.name = field.name)
    (taken : d.fields.lookup (p.fieldPath field) = some earlier) :
    o.reached = before.length + 1 ∧
      o.result = .error ⟨c.rule, field.pos, .duplicateField (p.fieldPath field) earlier⟩ := by
  obtain ⟨d₁, walk, fields, noted⟩ := c.performAll_visits_cons p after d
  rw [← fields] at taken
  rw [walk, c.performAll_duplicate _ captures outside name taken] at follows
  refine ⟨?_, follows.failed _ rfl⟩
  rw [follows.reached, noted, count]

/-- A capture whose path is new is not the end of the walk for that reason. -/
theorem not_fails_of_new (count : Event.dispatched d.journal = before.length)
    (follows : o.Follows (c.performAll (c.visits (p :: after)) d)) (captures : p.action.field? = some field)
    (new : d.fields.lookup (p.fieldPath field) = none) (rule : String) (pos : Pos) :
    ¬ o.EndsInDuplicate before rule pos := by
  rintro ⟨reached, path, type, result⟩
  obtain ⟨d₁, walk, fields, noted⟩ := c.performAll_visits_cons p after d
  rw [← fields] at new
  rw [walk, Composer.performAll_append, Walk.andThen] at follows
  rcases hc : c.performAll (c.checks p) d₁ with ⟨err | _, d₂⟩ <;> rw [hc] at follows
  · have same := (follows.failed err rfl).symm.trans result
    refine c.performAll_new captures new hc path type ?_
    rw [Except.error.inj same]
  · have passed := c.dispatched_performAll_ok hc
    rw [Composer.countP_dispatches_checks] at passed
    cases after with
    | nil =>
      obtain ⟨refusal, cause⟩ := follows.passed rfl _ result
      cases cause
    | cons q after =>
      -- the next action is reached, too
      obtain ⟨d₃, next, -, more⟩ := c.performAll_visits_cons q after d₂
      have rest := c.dispatched_le_performAll (c.checks q ++ c.visits after) d₃
      have ends := follows.reached
      simp only [next] at ends
      omega

end

/-- Paths of fields stand for the names in them, and a field is declared twice exactly if the names have
come before. -/
theorem compose_duplicate_iff (e : Emitter σ γ) (policy : NamingPolicy) (rule : Rule) (s : σ) :
    (∀ what name pos d, ((e.composer policy.normalize rule).checkName what name pos d).1 = .ok () →
      name ≠ "" ∧ '.' ∉ name.toList) ∧
    (∀ before p field before' q other, ReachedCapture e policy.normalize rule s before p field →
      ReachedCapture e policy.normalize rule s before' q other →
      (p.fieldPath field = q.fieldPath other ↔ p.names = q.names ∧ field.name = other.name)) ∧
    ∀ before p field, ReachedCapture e policy.normalize rule s before p field →
      ((compose e policy.normalize rule s).EndsInDuplicate before rule.name field.pos ↔
        ∃ q ∈ before, ∃ other, q.action.field? = some other ∧ q.names = p.names ∧ other.name = field.name) ∧
      ∀ q ∈ before, ∀ other, q.action.field? = some other → q.names = p.names → other.name = field.name →
        (compose e policy.normalize rule s).result =
          .error ⟨rule.name, field.pos, .duplicateField (p.fieldPath field) other.type⟩ := by
  refine ⟨fun what name pos d own => segment_of_checkName rfl (Composer.checkName_ok_iff.1 own),
    fun before p field before' q other hp hq => hp.fieldPath_eq_iff hq, fun before p field h => ?_⟩
  obtain ⟨d, after, ⟨start, empty, unnoted, passed⟩, follows⟩ := visits_of_reached h.reached
  have count : Event.dispatched d.journal = before.length := by
    rw [Composer.dispatched_performAll_ok _ passed, unnoted, Composer.countP_dispatches_visits, Nat.zero_add]
  have entered : ∀ {type}, d.fields.lookup (p.fieldPath field) = some type ↔ _ := h.lookup_eq_some_iff empty passed
  have name := Composer.checkName_ok_iff.1 (h.named d)
  have fails : ∀ q ∈ before, ∀ other, q.action.field? = some other → q.names = p.names → other.name = field.name →
      _ := fun q hq other captures names same => fails_of_taken count follows h.captures h.outside name
    (entered.2 ⟨q, hq, other, captures, names, same, rfl⟩)
  refine ⟨⟨fun twice => ?_, ?_⟩, fun q hq other captures names same => (fails q hq other captures names same).2⟩
  · cases found : d.fields.lookup (p.fieldPath field) with
    | none => exact absurd twice (not_fails_of_new count follows h.captures found _ _)
    | some type =>
      obtain ⟨q, hq, other, captures, names, same, -⟩ := entered.1 found
      exact ⟨q, hq, other, captures, names, same⟩
  · rintro ⟨q, hq, other, captures, names, same⟩
    obtain ⟨reached, result⟩ := fails q hq other captures names same
    exact ⟨reached, _, _, result⟩

/-- An area that is left and opened again, with the same field in it: the second capture fails, for a field
that it is told to be a number. -/
theorem compose_duplicate_iff_opened_again :
    let rule : Rule := { name := "access", actions := [
      .named ⟨1, 1⟩ "user" [.step ⟨1, 8⟩ (.takeRest { name := "id", type := .int32 })],
      .named ⟨2, 1⟩ "user" [.step ⟨2, 8⟩ (.takeRest { name := "id", type := .string, pos := ⟨2, 13⟩ })]] }
    let field : Field := { name := "id", type := .string, pos := ⟨2, 13⟩ }
    ∃ before p, ReachedCapture Recorder.emitter NamingPolicy.snake.normalize rule {} before p field ∧
      (compose Recorder.emitter NamingPolicy.snake.normalize rule {}).EndsInDuplicate before "access" ⟨2, 13⟩ ∧
      (compose Recorder.emitter NamingPolicy.snake.normalize rule {}).result =
        .error ⟨"access", ⟨2, 13⟩, .duplicateField "user.id" .int32⟩ := by
  intro rule field
  have reached : (compose Recorder.emitter NamingPolicy.snake.normalize rule {}).reached = 4 := by decide +kernel
  have named : (Recorder.emitter.composer NamingPolicy.snake.normalize rule).expectedName "id" = "id" := by
    decide +kernel
  have capture : ReachedCapture Recorder.emitter NamingPolicy.snake.normalize rule {} (rule.places.take 3)
      ⟨[some "user"], .step ⟨2, 8⟩ (.takeRest field)⟩ field :=
    ⟨by rw [reached]; exact ⟨[], rfl⟩, rfl, by simp, fun d => Composer.checkName_ok_iff.2 named⟩
  obtain ⟨-, -, twice⟩ := compose_duplicate_iff Recorder.emitter .snake rule {}
  obtain ⟨ends, result⟩ := twice _ _ _ capture
  have earlier : ⟨[some "user"], .step ⟨1, 8⟩ (.takeRest { name := "id", type := .int32 })⟩ ∈ rule.places.take 3 :=
    .tail _ (.head _)
  exact ⟨_, _, capture, ends.2 ⟨_, earlier, _, rfl, rfl, rfl⟩, result _ earlier _ rfl rfl rfl⟩

end

end LineRules
