/-
What performing tasks comes to. A list of tasks succeeds exactly when its checks hold, its fields
have paths of their own and its checkpoints are registered one after another; it has then put the
operations of its tasks on the draft. If it fails, one task does, after all before it have
succeeded, and the error says which. From this follows the course of composing a rule: the four ways
in which it can end.
-/
import LineRules.Proofs.Compose.Tasks

namespace LineRules

namespace Composer

variable {τ : Type} (c : Composer τ)

open Walk

/-! ## Success -/

/-- Registers paths in order, up to the first that is refused. -/
def registerAll : List String → τ → Except EmitError Unit × τ
  | [], t => (.ok (), t)
  | path :: rest, t =>
    match c.register path t with
    | (.ok (), t) => registerAll rest t
    | (.error e, t) => (.error e, t)

/-- No path is declared twice, or again after the fields of a draft. -/
def Fresh (fields : List (String × FieldType)) (paths : List String) : Prop :=
  paths.Nodup ∧ ∀ path ∈ paths, path ∉ fields.map Prod.fst

theorem fresh_cons {fields : List (String × FieldType)} {path : String} {t : FieldType}
    {paths : List String} :
    Fresh fields (path :: paths) ↔ path ∉ fields.map Prod.fst ∧ Fresh ((path, t) :: fields) paths := by
  simp only [Fresh, List.nodup_cons, List.mem_cons, List.map_cons, not_or]
  constructor
  · rintro ⟨⟨hp, hn⟩, hf⟩
    exact ⟨hf path (.inl rfl), hn, fun q hq => ⟨fun h => hp (h ▸ hq), hf q (.inr hq)⟩⟩
  · rintro ⟨hp, hn, hf⟩
    refine ⟨⟨fun h => (hf path h).1 rfl, hn⟩, ?_⟩
    rintro q (rfl | hq)
    · exact hp
    · exact (hf q hq).2

theorem lookup_eq_none_iff {fields : List (String × FieldType)} {path : String} :
    fields.lookup path = none ↔ path ∉ fields.map Prod.fst := by
  rw [List.lookup_eq_none_iff]
  simp only [List.mem_map, not_exists, not_and, bne_iff_ne]
  exact ⟨fun h p hp he => h p hp he.symm, fun h p hp he => h p hp he.symm⟩

/-- Tasks succeed exactly if their checks hold, their fields are new, and their checkpoints are
accepted. -/
theorem performAll_ok_iff (ts : List Task) (d : Draft τ) :
    (c.performAll ts d).1 = .ok () ↔
      ts.all Task.holds = true ∧ Fresh d.fields (ts.filterMap Task.declared?) ∧
      (c.registerAll (ts.filterMap Task.registered?) d.tracker).1 = .ok () := by
  induction ts generalizing d with
  | nil => simp [performAll_nil, Fresh, registerAll]
  | cons t ts ih =>
    simp only [performAll_cons, andThen, List.all_cons, List.filterMap_cons]
    -- each kind of check bears on one of the three conditions and leaves the other two to the rest
    cases t with
    | require holds error =>
      cases holds
      · simp [perform, fail, Task.holds]
      · exact ih d
    | declare path field =>
      simp only [perform, Task.holds, Task.declared?, Task.registered?, Bool.true_and,
        fresh_cons (t := field.type), ← lookup_eq_none_iff]
      cases d.fields.lookup path with
      | some earlier => simp [failAt, fail]
      | none =>
        simp only [true_and]
        exact ih _
    | checkpoint path pos =>
      simp only [perform, Task.holds, Task.declared?, Task.registered?, Bool.true_and, registerAll]
      rcases c.register path d.tracker with ⟨e | _, t⟩
      · simp [failAt, fail]
      · exact ih _
    | emit op => exact ih _
    | note event => exact ih _
    | reach a => exact ih _

theorem registerAll_append (ps qs : List String) (t : τ) :
    c.registerAll (ps ++ qs) t =
      match c.registerAll ps t with
      | (.ok (), t) => c.registerAll qs t
      | (.error e, t) => (.error e, t) := by
  induction ps generalizing t with
  | nil => rfl
  | cons p ps ih =>
    simp only [List.cons_append, registerAll]
    rcases c.register p t with ⟨_ | _, t⟩
    · rfl
    · exact ih t

theorem registered_cons (t : Task) (ts : List Task) :
    (t :: ts).filterMap Task.registered? = t.registered?.toList ++ ts.filterMap Task.registered? := by
  rw [List.filterMap_cons]
  cases t.registered? <;> rfl

theorem perform_ok {t : Task} {d d' : Draft τ} (h : c.perform t d = (.ok (), d')) :
    d'.ops = d.ops ++ t.ops ∧ c.registerAll t.registered?.toList d.tracker = (.ok (), d'.tracker) := by
  cases t with
  | require holds error =>
    cases holds <;> cases h
    exact ⟨(List.append_nil _).symm, rfl⟩
  | declare path field =>
    simp only [perform] at h
    split at h <;> cases h
    exact ⟨(List.append_nil _).symm, rfl⟩
  | checkpoint path pos =>
    simp only [perform] at h
    split at h <;> cases h
    rename_i hr
    exact ⟨rfl, by simp [Task.registered?, registerAll, hr, Draft.push]⟩
  | emit op => cases h; exact ⟨rfl, rfl⟩
  | note event => cases h; exact ⟨(List.append_nil _).symm, rfl⟩
  | reach a => cases h; exact ⟨(List.append_nil _).symm, rfl⟩

/-- Tasks that succeed put their operations on the draft and register their paths. -/
theorem performAll_ok {ts : List Task} {d d' : Draft τ} (h : c.performAll ts d = (.ok (), d')) :
    d'.ops = d.ops ++ ts.flatMap Task.ops ∧
      c.registerAll (ts.filterMap Task.registered?) d.tracker = (.ok (), d'.tracker) := by
  induction ts generalizing d with
  | nil => cases h; exact ⟨(List.append_nil _).symm, rfl⟩
  | cons t ts ih =>
    simp only [performAll_cons, andThen] at h
    rcases ht : c.perform t d with ⟨_ | _, d₁⟩ <;> rw [ht] at h
    · cases h
    · obtain ⟨ho, hr⟩ := c.perform_ok ht
      obtain ⟨ho', hr'⟩ := ih h
      refine ⟨by rw [ho', ho, List.flatMap_cons, List.append_assoc], ?_⟩
      rw [registered_cons, registerAll_append, hr]
      exact hr'

/-! ## Failure -/

/-- If tasks fail, then one of them does, after those before it have succeeded. -/
theorem performAll_error {ts : List Task} {d d' : Draft τ} {err : RuleError}
    (h : c.performAll ts d = (.error err, d')) :
    ∃ before t after d₁, ts = before ++ t :: after ∧ c.performAll before d = (.ok (), d₁) ∧
      c.perform t d₁ = (.error err, d') := by
  induction ts generalizing d with
  | nil => cases h
  | cons t ts ih =>
    simp only [performAll_cons, andThen] at h
    rcases ht : c.perform t d with ⟨e | _, d₁⟩ <;> rw [ht] at h
    · cases h
      exact ⟨[], t, ts, d, rfl, rfl, ht⟩
    · obtain ⟨before, u, after, d₂, rfl, hb, hu⟩ := ih h
      refine ⟨t :: before, u, after, d₂, rfl, ?_, hu⟩
      simp only [performAll_cons, andThen, ht, hb]

/-- The three kinds of tasks that fail, and what each says. -/
theorem perform_error {t : Task} {d d' : Draft τ} {err : RuleError} (h : c.perform t d = (.error err, d')) :
    (t = .require false err ∧ d' = d) ∨
    (∃ path field earlier, t = .declare path field ∧
      err = ⟨c.rule, field.pos, .duplicateField path earlier⟩ ∧ d' = d) ∨
    (∃ path pos e, t = .checkpoint path pos ∧ err = ⟨c.rule, pos, .checkpointViolation e⟩ ∧
      c.register path d.tracker = (.error e, d'.tracker)) := by
  cases t with
  | require holds error =>
    cases holds <;> cases h
    exact .inl ⟨rfl, rfl⟩
  | declare path field =>
    simp only [perform] at h
    split at h <;> cases h
    exact .inr (.inl ⟨path, field, _, rfl, rfl, rfl⟩)
  | checkpoint path pos =>
    simp only [perform] at h
    split at h <;> cases h
    rename_i hr
    exact .inr (.inr ⟨path, pos, _, rfl, rfl, hr⟩)
  | emit op => cases h
  | note event => cases h
  | reach a => cases h

end Composer

/-- The refusal that an error passes on. The composer's own errors pass on none. -/
def ComposeError.refusal? : ComposeError → Option EmitError
  | checkpointViolation e => some e
  | emitterRejection e => some e
  | _ => none

/-- The path of a checkpoint. -/
def Op.checkpoint? : Op → Option String
  | checkpoint path => some path
  | _ => none

/-- A task as rules have them: the error of a check is the composer's own and names the rule, and a
checkpoint is put on the draft only where it is registered. -/
def Task.Proper (rule : String) : Task → Prop
  | require _ error => error.rule = rule ∧ error.cause.refusal? = none
  | emit op => op.checkpoint? = none
  | _ => True

namespace Composer

variable {τ : Type} (c : Composer τ)

theorem proper_literalTasks {pos : Pos} {action : String} {limit : Limit} {body : Literal → List Op}
    (h : ∀ literal, ∀ op ∈ body literal, op.checkpoint? = none) :
    ∀ t ∈ c.literalTasks pos action limit body, t.Proper c.rule := by
  refine List.forall_mem_cons.2 ⟨⟨rfl, rfl⟩, fun t ht => ?_⟩
  obtain ⟨op, hop, rfl⟩ := List.mem_map.1 ht
  obtain ⟨literal, -, hop⟩ := List.mem_flatMap.1 hop
  exact h literal op hop

theorem proper_captureTasks (segments : List String) (depth : Nat) (what : Forbidden) (field : Field) :
    ∀ t ∈ c.captureTasks segments depth what field, t.Proper c.rule := by
  simp [captureTasks, outsideTask, nameTask, Task.Proper, ComposeError.refusal?]

theorem checkpoint?_lookup (limit : Limit) (literal : Literal) (ignore : Bool) :
    (limit.lookup literal ignore).checkpoint? = none := by
  unfold Limit.lookup
  split <;> rfl

theorem proper_stepTasks (segments : List String) (depth : Nat) (pos : Pos) (s : Step) :
    ∀ t ∈ c.stepTasks segments depth pos s, t.Proper c.rule := by
  cases s with
  | passUntil limit ignore =>
    refine List.forall_mem_cons.2 ⟨trivial, ?_⟩
    split
    · simp [Task.Proper]
    · exact c.proper_literalTasks (by simp [checkpoint?_lookup])
  | take field limit orRest =>
    exact List.forall_mem_append.2 ⟨c.proper_captureTasks segments depth .take field,
      c.proper_literalTasks (by simp [Op.checkpoint?])⟩
  | takeRest field =>
    exact List.forall_mem_append.2 ⟨c.proper_captureTasks segments depth .takeRest field,
      by simp [Task.Proper, Op.checkpoint?]⟩
  | _ => simp [stepTasks, Task.Proper, Op.checkpoint?]

theorem proper_tasksAll (acts : List Action) (segments : List String) (depth : Nat) :
    ∀ t ∈ c.tasksAll segments depth acts, t.Proper c.rule := by
  induction acts using Action.forest_induction generalizing segments depth with
  | nil => simp [tasksAll]
  | unnamed pos body rest hb hr =>
    simp only [tasksAll, tasks, List.forall_mem_cons, List.forall_mem_append]
    exact ⟨trivial, ⟨rfl, hb _ _, by simp [Task.Proper, Op.checkpoint?]⟩, hr _ _⟩
  | named pos name body rest hb hr =>
    simp only [tasksAll, tasks, List.forall_mem_cons, List.forall_mem_append]
    exact ⟨trivial, ⟨⟨rfl, rfl⟩, ⟨rfl, rfl⟩, trivial, rfl, hb _ _, by simp [Task.Proper, Op.checkpoint?]⟩, hr _ _⟩
  | step pos s rest hr =>
    simp only [tasksAll, tasks, List.forall_mem_cons, List.forall_mem_append]
    exact ⟨trivial, c.proper_stepTasks segments depth pos s, hr _ _⟩

/-- The tasks of actions fail by a check of the composer's own, which leaves the tracker as it is, or
by a checkpoint that is refused. -/
theorem performAll_tasksAll_error {acts : List Action} {segments : List String} {depth : Nat}
    {d d' : Draft τ} {err : RuleError}
    (h : c.performAll (c.tasksAll segments depth acts) d = (.error err, d')) :
    ∃ before t after d₁, c.tasksAll segments depth acts = before ++ t :: after ∧
      c.performAll before d = (.ok (), d₁) ∧
      ((d'.tracker = d₁.tracker ∧ err.rule = c.rule ∧ err.cause.refusal? = none) ∨
        ∃ path pos e, t = .checkpoint path pos ∧ err = ⟨c.rule, pos, .checkpointViolation e⟩ ∧
          c.register path d₁.tracker = (.error e, d'.tracker)) := by
  obtain ⟨before, t, after, d₁, hts, hb, ht⟩ := c.performAll_error h
  refine ⟨before, t, after, d₁, hts, hb, ?_⟩
  have proper : t.Proper c.rule := c.proper_tasksAll acts segments depth t (by simp [hts])
  rcases c.perform_error ht with ⟨rfl, rfl⟩ | ⟨path, field, earlier, rfl, rfl, rfl⟩ | hr
  · exact .inl ⟨rfl, proper⟩
  · exact .inl ⟨rfl, rfl, rfl⟩
  · exact .inr hr

/-! ## Trackers -/

/-- What registering keeps true of a tracker, performing tasks keeps true of it. -/
theorem performAll_tracker {R : τ → Prop} (hR : ∀ path t, R t → R (c.register path t).2) (ts : List Task)
    (d : Draft τ) (h : R d.tracker) : R (c.performAll ts d).2.tracker := by
  induction ts generalizing d with
  | nil => exact h
  | cons t ts ih =>
    have ht : R (c.perform t d).2.tracker := by
      cases t with
      | require holds error => cases holds <;> exact h
      | declare path field =>
        simp only [perform]
        split <;> exact h
      | checkpoint path pos =>
        have := hR path d.tracker h
        simp only [perform]
        split <;> rename_i hr <;> rw [hr] at this <;> exact this
      | emit op => exact h
      | note event => exact h
      | reach a => exact h
    simp only [performAll_cons, Walk.andThen]
    rcases hp : c.perform t d with ⟨_ | _, d₁⟩ <;> rw [hp] at ht
    · exact ht
    · exact ih d₁ ht

end Composer

/-- The draft with another tracker in place of its own. -/
def Draft.mapTracker {τ τ' : Type} (f : τ → τ') (d : Draft τ) : Draft τ' :=
  { d with tracker := f d.tracker }

namespace Composer

variable {τ τ' : Type} {c : Composer τ} {c' : Composer τ'} {f : τ → τ'}

/-- One composer does what another does, seen through a map of their trackers. -/
structure Mirrors (f : τ → τ') (c : Composer τ) (c' : Composer τ') : Prop where
  rule : c'.rule = c.rule
  normalize : c'.normalize = c.normalize
  register : ∀ path t, c'.register path (f t) = ((c.register path t).1, f (c.register path t).2)

theorem Mirrors.tasksAll (h : Mirrors f c c') (acts : List Action) (segments : List String) (depth : Nat) :
    c'.tasksAll segments depth acts = c.tasksAll segments depth acts := by
  obtain ⟨rule, normalize, register⟩ := c
  obtain ⟨rule', normalize', register'⟩ := c'
  obtain ⟨rfl, rfl, -⟩ := h
  -- the tasks of one action read the rule's name and the policy only
  have hs : ∀ segments depth pos s, stepTasks ⟨rule', normalize', register'⟩ segments depth pos s =
      stepTasks ⟨rule', normalize', register⟩ segments depth pos s := by
    intro segments depth pos s
    cases s <;> rfl
  induction acts using Action.forest_induction generalizing segments depth with
  | nil => simp only [Composer.tasksAll]
  | unnamed pos body rest hb hr => simp only [Composer.tasksAll, tasks, hb, hr]
  | named pos name body rest hb hr =>
    simp only [Composer.tasksAll, tasks, hb, hr]
    rfl
  | step pos s rest hr => simp only [Composer.tasksAll, tasks, hs, hr]

theorem Mirrors.perform (h : Mirrors f c c') (t : Task) (d : Draft τ) :
    c'.perform t (d.mapTracker f) = ((c.perform t d).1, (c.perform t d).2.mapTracker f) := by
  cases t with
  | require holds error => cases holds <;> rfl
  | declare path field =>
    simp only [Composer.perform, Draft.mapTracker, failAt, h.rule]
    split <;> rfl
  | checkpoint path pos =>
    simp only [Composer.perform, Draft.mapTracker, failAt, h.rule, h.register]
    rcases c.register path d.tracker with ⟨_ | _, t⟩ <;> rfl
  | emit op => rfl
  | note event => rfl
  | reach a => simp only [Composer.perform, reach, h.rule]; rfl

theorem Mirrors.performAll (h : Mirrors f c c') (ts : List Task) (d : Draft τ) :
    c'.performAll ts (d.mapTracker f) = ((c.performAll ts d).1, (c.performAll ts d).2.mapTracker f) := by
  induction ts generalizing d with
  | nil => rfl
  | cons t ts ih =>
    simp only [performAll_cons, Walk.andThen, h.perform]
    rcases c.perform t d with ⟨_ | _, d⟩
    · rfl
    · exact ih d

end Composer

/-! ## The course of composing -/

section

variable {σ γ : Type} (e : Emitter σ γ) (normalize : String → String) (rule : Rule)

/-- The composer of a rule for an emitter. -/
def Emitter.composer : Composer (γ × σ) :=
  { rule := rule.name, normalize := normalize, register := e.register }

/-- The draft with which the walk over a rule begins. -/
def Emitter.draft (tracker : γ) (s : σ) : Draft (γ × σ) := { tracker := (tracker, s) }

/-- The tasks of a rule. -/
def Emitter.tasks : List Task := (e.composer normalize rule).tasksAll [] 0 rule.actions

/-- The ways in which composing a rule can end, from the state `s`: with what result, and in what
state. -/
inductive Course (s : σ) : Except RuleError (List Op) → σ → Prop
  /-- The emitter does not let the rule begin. -/
  | refused {err : EmitError} {s' : σ} (begun : e.beginRule rule.name rule.pos s = (.error err, s')) :
    Course s (.error ⟨rule.name, rule.pos, .emitterRejection err⟩) s'
  /-- An action breaks a rule of the language. -/
  | rejected {tracker : γ} {s' : σ} {err : RuleError} {d : Draft (γ × σ)}
    (begun : e.beginRule rule.name rule.pos s = (.ok tracker, s'))
    (walked : (e.composer normalize rule).performAll (e.tasks normalize rule) (Emitter.draft tracker s') =
      (.error err, d)) :
    Course s (.error err) (e.abandonRule d.tracker.2)
  /-- The emitter refuses an operation, or the rule as a whole. -/
  | dropped {tracker : γ} {s' s'' : σ} {err : EmitError} {d : Draft (γ × σ)}
    (begun : e.beginRule rule.name rule.pos s = (.ok tracker, s'))
    (walked : (e.composer normalize rule).performAll (e.tasks normalize rule) (Emitter.draft tracker s') =
      (.ok (), d))
    (committed : e.commit d.ops d.tracker.2 = (.error err, s'')) :
    Course s (.error ⟨rule.name, rule.pos, .emitterRejection err⟩) (e.abandonRule s'')
  | committed {tracker : γ} {s' s'' : σ} {d : Draft (γ × σ)}
    (begun : e.beginRule rule.name rule.pos s = (.ok tracker, s'))
    (walked : (e.composer normalize rule).performAll (e.tasks normalize rule) (Emitter.draft tracker s') =
      (.ok (), d))
    (committed : e.commit d.ops d.tracker.2 = (.ok (), s'')) :
    Course s (.ok d.ops) s''

theorem compose_walk (tracker : γ) (s : σ) :
    Composer.walkAll { rule := rule.name, normalize := normalize, register := e.register } rule.actions
        { tracker := (tracker, s) } =
      (e.composer normalize rule).performAll (e.tasks normalize rule) (Emitter.draft tracker s) :=
  (e.composer normalize rule).walkAll_eq rule.actions (Emitter.draft tracker s)

/-- Composing a rule takes one of the courses. -/
theorem compose_course (s : σ) :
    Course e normalize rule s (compose e normalize rule s).result (compose e normalize rule s).state := by
  simp only [compose, compose_walk]
  rcases hb : e.beginRule rule.name rule.pos s with ⟨err | tracker, s'⟩
  · exact .refused hb
  · simp only
    rcases hw : (e.composer normalize rule).performAll (e.tasks normalize rule) (Emitter.draft tracker s') with
      ⟨err | _, d⟩
    · exact .rejected hb hw
    · simp only
      rcases hc : e.commit d.ops d.tracker.2 with ⟨err | _, s''⟩
      · exact .dropped hb hw hc
      · exact .committed hb hw hc

variable {e normalize rule}

/-- A course tells how composing ends: there is no other from the same state. -/
theorem Course.eq {s s' : σ} {result : Except RuleError (List Op)} (h : Course e normalize rule s result s') :
    (compose e normalize rule s).result = result ∧ (compose e normalize rule s).state = s' := by
  cases h with
  | refused begun => simp only [compose, begun, and_self]
  | rejected begun walked => simp only [compose, begun, compose_walk, walked, and_self]
  | dropped begun walked committed => simp only [compose, begun, compose_walk, walked, committed, and_self]
  | committed begun walked committed => simp only [compose, begun, compose_walk, walked, committed, and_self]

end

end LineRules
