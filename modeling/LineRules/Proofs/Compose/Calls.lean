/-
The calls that composing a rule makes on an emitter. An emitter is wrapped into one that writes down
every call it gets and how it answers; apart from the log the wrapped emitter behaves like the
emitter itself. Main statement: for every emitter, however it answers, the calls for one rule are one
of six dialogues, and the result is the one that belongs to the dialogue. The checkpoints of a rule
are registered during the walk and performed after it; the two streams agree.
-/
import LineRules.CallLog
import LineRules.Proofs.Compose.Program

namespace LineRules

/-! ## Writing calls down -/

/-- A call and how it was answered: not at all, or by a refusal. -/
structure Exchange where
  call : Call
  refusal : Option EmitError := none

/-- A call with an answer. -/
def Exchange.of {α : Type} (call : Call) : Except EmitError α → Exchange
  | .ok _ => { call := call }
  | .error err => { call := call, refusal := some err }

/-- Calls none of which was refused. -/
def Exchange.accepted (calls : List Call) : List Exchange := calls.map fun call => { call := call }

open Exchange (accepted)

variable {σ σ' γ : Type}

/-- Writes down the call of a method for an operation, with its answer. -/
def Emitter.written (op : Op) (method : σ → Except EmitError Unit × σ) (s : σ × List Exchange) :
    Except EmitError Unit × (σ × List Exchange) :=
  let reply := method s.1
  (reply.1, (reply.2, s.2 ++ [.of (.perform op) reply.1]))

/-- Writes down the call of a method that is never refused. -/
def Emitter.noted (op : Op) (method : σ → σ) (s : σ × List Exchange) : σ × List Exchange :=
  (method s.1, s.2 ++ [{ call := .perform op }])

/-- The emitter that also writes down its calls. -/
def Emitter.logged (e : Emitter σ γ) : Emitter (σ × List Exchange) γ where
  beginRule name pos s :=
    let reply := e.beginRule name pos s.1
    (reply.1, (reply.2, s.2 ++ [.of (.beginRule name pos) reply.1]))
  register path t :=
    let reply := e.register path (t.1, t.2.1)
    (reply.1, (reply.2.1, (reply.2.2, t.2.2 ++ [.of (.register path) reply.1])))
  openUnnamedScope pos := written (.openUnnamed pos) (e.openUnnamedScope pos)
  closeUnnamedScope := written .closeUnnamed e.closeUnnamedScope
  openNamedScope name pos := written (.openNamed name pos) (e.openNamedScope name pos)
  closeNamedScope := written .closeNamed e.closeNamedScope
  checkpoint path := noted (.checkpoint path) (e.checkpoint path)
  atEnd := noted .atEnd e.atEnd
  stress := noted .stress e.stress
  head literal optional := noted (.head literal optional) (e.head literal optional)
  passFirst count := noted (.passFirst count) (e.passFirst count)
  lookupFixed literal offset ignore :=
    noted (.lookupFixed literal offset ignore) (e.lookupFixed literal offset ignore)
  lookup literal lower upper close ignore :=
    noted (.lookup literal lower upper close ignore) (e.lookup literal lower upper close ignore)
  addField name type pos := written (.declareField name type pos) (e.addField name type pos)
  takeBefore name type literal lower upper close orRest :=
    written (.takeBefore name type literal lower upper close orRest)
      (e.takeBefore name type literal lower upper close orRest)
  takeRest name type := written (.takeRest name type) (e.takeRest name type)
  finishRule s :=
    let reply := e.finishRule s.1
    (reply.1, (reply.2, s.2 ++ [.of .finishRule reply.1]))
  abandonRule s := (e.abandonRule s.1, s.2 ++ [{ call := .abandonRule }])

/-! ## The log changes nothing else -/

namespace Emitter

/-- Whichever method an operation is for, what is written down is the operation. -/
theorem logged_perform (e : Emitter σ γ) (op : Op) : e.logged.perform op = written op (e.perform op) := by
  cases op <;> rfl

/-- One emitter does what another does, seen through a map of their states. -/
structure Mirrors (f : σ → σ') (e : Emitter σ γ) (e' : Emitter σ' γ) : Prop where
  beginRule : ∀ name pos s, e'.beginRule name pos (f s) = Prod.map id f (e.beginRule name pos s)
  register : ∀ path t, e'.register path (Prod.map id f t) = Prod.map id (Prod.map id f) (e.register path t)
  perform : ∀ op s, e'.perform op (f s) = Prod.map id f (e.perform op s)
  finishRule : ∀ s, e'.finishRule (f s) = Prod.map id f (e.finishRule s)
  abandonRule : ∀ s, e'.abandonRule (f s) = f (e.abandonRule s)

variable {f : σ → σ'} {e : Emitter σ γ} {e' : Emitter σ' γ}

theorem Mirrors.replay (h : Mirrors f e e') (ops : List Op) (s : σ) :
    e'.replay ops (f s) = Prod.map id f (e.replay ops s) := by
  induction ops generalizing s with
  | nil => rfl
  | cons op ops ih =>
    simp only [Emitter.replay, h.perform]
    rcases e.perform op s with ⟨_ | _, s⟩
    · rfl
    · exact ih s

theorem Mirrors.commit (h : Mirrors f e e') (ops : List Op) (s : σ) :
    e'.commit ops (f s) = Prod.map id f (e.commit ops s) := by
  simp only [Emitter.commit, h.replay]
  rcases e.replay ops s with ⟨_ | _, s⟩
  · rfl
  · exact h.finishRule s

/-- Emitters that mirror each other compose alike. -/
theorem Mirrors.compose (h : Mirrors f e e') (normalize : String → String) (rule : Rule) (s : σ) :
    (compose e' normalize rule (f s)).result = (compose e normalize rule s).result ∧
      (compose e' normalize rule (f s)).state = f (compose e normalize rule s).state := by
  have hm : Composer.Mirrors (Prod.map id f) (e.composer normalize rule) (e'.composer normalize rule) :=
    ⟨rfl, rfl, h.register⟩
  have begun : ∀ {answer : Except EmitError γ} {s'}, e.beginRule rule.name rule.pos s = (answer, s') →
      e'.beginRule rule.name rule.pos (f s) = (answer, f s') :=
    fun hb => by rw [h.beginRule, hb]; rfl
  have walked : ∀ {tracker s' answer d}, (e.composer normalize rule).performAll (e.tasks normalize rule)
      (Emitter.draft tracker s') = (answer, d) → (e'.composer normalize rule).performAll
        (e'.tasks normalize rule) (Emitter.draft tracker (f s')) = (answer, d.mapTracker (Prod.map id f)) := by
    intro tracker s' answer d hw
    have hp := hm.performAll (e.tasks normalize rule) (Emitter.draft tracker s')
    rw [hw] at hp
    rw [Emitter.tasks, hm.tasksAll]
    exact hp
  have committed : ∀ {ops s answer s'}, e.commit ops s = (answer, s') → e'.commit ops (f s) = (answer, f s') :=
    fun hc => by rw [h.commit, hc]; rfl
  -- every course on one side is one on the other, part by part
  apply Course.eq
  have course := compose_course e normalize rule s
  generalize (LineRules.compose e normalize rule s).result = result at course ⊢
  generalize (LineRules.compose e normalize rule s).state = state at course ⊢
  cases course with
  | refused hb => exact .refused (begun hb)
  | rejected hb hw => rw [← h.abandonRule]; exact .rejected (begun hb) (walked hw)
  | dropped hb hw hc => rw [← h.abandonRule]; exact .dropped (begun hb) (walked hw) (committed hc)
  | committed hb hw hc => exact .committed (begun hb) (walked hw) (committed hc)

theorem mirrors_logged (e : Emitter σ γ) : Mirrors Prod.fst e.logged e :=
  ⟨fun _ _ _ => rfl, fun _ _ => rfl, fun op s => by rw [logged_perform]; rfl, fun _ => rfl, fun _ => rfl⟩

end Emitter

/-! ## Dialogues -/

/-- The paths of the checkpoints among operations, in order. -/
def Op.checkpointPaths (ops : List Op) : List String := ops.filterMap Op.checkpoint?

/-- The dialogues about a rule: the calls with their answers, and the result they lead to. -/
inductive Dialogue (rule : Rule) : List Exchange → Except RuleError (List Op) → Prop
  /-- The rule is not let begin. -/
  | turnedAway (err : EmitError) :
    Dialogue rule [{ call := .beginRule rule.name rule.pos, refusal := some err }]
      (.error ⟨rule.name, rule.pos, .emitterRejection err⟩)
  /-- An action breaks a rule of the language, after some checkpoints. -/
  | invalid (paths : List String) (err : RuleError) (named : err.rule = rule.name)
    (own : err.cause.refusal? = none) :
    Dialogue rule
      (accepted (.beginRule rule.name rule.pos :: paths.map .register ++ [.abandonRule]))
      (.error err)
  /-- A checkpoint is refused. -/
  | checkpointRefused (paths : List String) (path : String) (pos : Pos) (err : EmitError) :
    Dialogue rule
      (accepted (.beginRule rule.name rule.pos :: paths.map .register) ++
        { call := .register path, refusal := some err } :: accepted [.abandonRule])
      (.error ⟨rule.name, pos, .checkpointViolation err⟩)
  /-- All checkpoints are registered; then an operation is refused, after those before it. -/
  | operationRefused (before : List Op) (op : Op) (after : List Op) (err : EmitError)
    (split : rule.program = before ++ op :: after) :
    Dialogue rule
      (accepted (.beginRule rule.name rule.pos ::
          (Op.checkpointPaths rule.program).map .register ++ before.map .perform) ++
        { call := .perform op, refusal := some err } :: accepted [.abandonRule])
      (.error ⟨rule.name, rule.pos, .emitterRejection err⟩)
  /-- All operations are performed; then the rule is refused as a whole. -/
  | finishRefused (err : EmitError) :
    Dialogue rule
      (accepted (.beginRule rule.name rule.pos ::
          (Op.checkpointPaths rule.program).map .register ++ rule.program.map .perform) ++
        { call := .finishRule, refusal := some err } :: accepted [.abandonRule])
      (.error ⟨rule.name, rule.pos, .emitterRejection err⟩)
  /-- Nothing is refused. -/
  | committed :
    Dialogue rule
      (accepted (.beginRule rule.name rule.pos ::
        (Op.checkpointPaths rule.program).map .register ++ rule.program.map .perform ++ [.finishRule]))
      (.ok rule.program)

/-! ## What the log holds after each part -/

theorem accepted_append (xs ys : List Call) :
    accepted (xs ++ ys) = accepted xs ++ accepted ys := List.map_append

section

variable {e : Emitter σ γ} {normalize : String → String} {rule : Rule}

theorem log_of_register {path : String} {t t' : γ × (σ × List Exchange)} {answer : Except EmitError Unit}
    (h : (e.logged.composer normalize rule).register path t = (answer, t')) :
    t'.2.2 = t.2.2 ++ [.of (.register path) answer] := by
  cases h
  rfl

theorem log_of_registerAll {paths : List String} {t t' : γ × (σ × List Exchange)}
    (h : (e.logged.composer normalize rule).registerAll paths t = (.ok (), t')) :
    t'.2.2 = t.2.2 ++ accepted (paths.map .register) := by
  induction paths generalizing t with
  | nil =>
    cases h
    exact (List.append_nil _).symm
  | cons path paths ih =>
    simp only [Composer.registerAll] at h
    rcases hr : (e.logged.composer normalize rule).register path t with ⟨_ | _, t₁⟩ <;> rw [hr] at h
    · cases h
    · rw [ih h, log_of_register hr, List.append_assoc]
      rfl

theorem log_of_perform {op : Op} {s s' : σ × List Exchange} {answer : Except EmitError Unit}
    (h : e.logged.perform op s = (answer, s')) : s'.2 = s.2 ++ [.of (.perform op) answer] := by
  rw [Emitter.logged_perform] at h
  cases h
  rfl

theorem log_of_replay_ok {ops : List Op} {s s' : σ × List Exchange} (h : e.logged.replay ops s = (.ok (), s')) :
    s'.2 = s.2 ++ accepted (ops.map .perform) := by
  induction ops generalizing s with
  | nil =>
    cases h
    exact (List.append_nil _).symm
  | cons op ops ih =>
    simp only [Emitter.replay] at h
    rcases hp : e.logged.perform op s with ⟨_ | _, s₁⟩ <;> rw [hp] at h
    · cases h
    · rw [ih h, log_of_perform hp, List.append_assoc]
      rfl

theorem log_of_replay_error {ops : List Op} {s s' : σ × List Exchange} {err : EmitError}
    (h : e.logged.replay ops s = (.error err, s')) :
    ∃ before op after, ops = before ++ op :: after ∧
      s'.2 = s.2 ++ (accepted (before.map .perform) ++ [{ call := .perform op, refusal := some err }]) := by
  induction ops generalizing s with
  | nil => cases h
  | cons op ops ih =>
    simp only [Emitter.replay] at h
    rcases hp : e.logged.perform op s with ⟨_ | _, s₁⟩ <;> rw [hp] at h
    · cases h
      exact ⟨[], op, ops, rfl, log_of_perform hp⟩
    · obtain ⟨before, op', after, rfl, hs⟩ := ih h
      refine ⟨op :: before, op', after, rfl, ?_⟩
      rw [hs, log_of_perform hp, List.append_assoc]
      rfl

theorem log_of_finishRule {s s' : σ × List Exchange} {answer : Except EmitError Unit}
    (h : e.logged.finishRule s = (answer, s')) : s'.2 = s.2 ++ [.of .finishRule answer] := by
  cases h
  rfl

theorem log_of_beginRule {s s' : σ × List Exchange} {answer : Except EmitError γ}
    (h : e.logged.beginRule rule.name rule.pos s = (answer, s')) :
    s'.2 = s.2 ++ [.of (.beginRule rule.name rule.pos) answer] := by
  cases h
  rfl

/-! ## The checkpoints in both streams -/

theorem registered_eq_checkpoint? {name : String} {t : Task} (h : t.Proper name) :
    t.registered?.toList = t.ops.filterMap Op.checkpoint? := by
  cases t with
  | emit op =>
    have ho : op.checkpoint? = none := h
    simp [Task.registered?, Task.ops, ho]
  | _ => rfl

/-- What tasks register is what they put on the draft as checkpoints. -/
theorem registered_eq_checkpointPaths {name : String} {ts : List Task} (h : ∀ t ∈ ts, t.Proper name) :
    ts.filterMap Task.registered? = Op.checkpointPaths (ts.flatMap Task.ops) := by
  induction ts with
  | nil => rfl
  | cons t ts ih =>
    obtain ⟨ht, hr⟩ := List.forall_mem_cons.1 h
    rw [Composer.registered_cons, ih hr, registered_eq_checkpoint? ht, List.flatMap_cons, Op.checkpointPaths,
      Op.checkpointPaths, List.filterMap_append]

/-- A rule that passes the walk has registered the checkpoints of its program, one by one. -/
theorem log_of_performAll_ok {tracker : γ} {s : σ × List Exchange} {d : Draft (γ × (σ × List Exchange))}
    (h : (e.logged.composer normalize rule).performAll (e.logged.tasks normalize rule)
      (Emitter.draft tracker s) = (.ok (), d)) :
    d.tracker.2.2 = s.2 ++ accepted ((Op.checkpointPaths rule.program).map .register) := by
  obtain ⟨ho, hr⟩ := (e.logged.composer normalize rule).performAll_ok h
  have proper := (e.logged.composer normalize rule).proper_tasksAll rule.actions [] 0
  rw [← ops_of_performAll h, ho]
  rw [Emitter.tasks, registered_eq_checkpointPaths proper] at hr
  exact log_of_registerAll hr

/-! ## Every composition is a dialogue -/

/-- A walk that fails ends in an error of the composer's own, or with the refusal of the checkpoint
that was registered last. -/
theorem dialogue_of_performAll_error {tracker : γ} {s : σ} {s' : σ × List Exchange}
    {d : Draft (γ × (σ × List Exchange))} {err : RuleError}
    (begun : e.logged.beginRule rule.name rule.pos (s, []) = (.ok tracker, s'))
    (walked : (e.logged.composer normalize rule).performAll (e.logged.tasks normalize rule)
      (Emitter.draft tracker s') = (.error err, d)) :
    Dialogue rule (d.tracker.2.2 ++ accepted [.abandonRule]) (.error err) := by
  obtain ⟨before, t, after, d₁, -, hb, h⟩ := (e.logged.composer normalize rule).performAll_tasksAll_error walked
  have hlog := log_of_registerAll ((e.logged.composer normalize rule).performAll_ok hb).2
  rw [show (Emitter.draft tracker s').tracker.2.2 = _ from log_of_beginRule begun] at hlog
  -- a check of the composer's own makes no call, a refused checkpoint makes the last one
  rcases h with ⟨ht, named, own⟩ | ⟨path, pos, refusal, -, rfl, hr⟩
  · rw [ht, hlog, List.append_assoc, ← accepted_append]
    exact .invalid (before.filterMap Task.registered?) err named own
  · rw [log_of_register hr, hlog, List.append_assoc, List.append_assoc]
    exact .checkpointRefused (before.filterMap Task.registered?) path pos refusal

/-- A commit that fails ends with the refusal of an operation or of the whole rule. -/
theorem dialogue_of_commit_error {s s' : σ × List Exchange} {err : EmitError}
    (begun : s.2 = accepted (.beginRule rule.name rule.pos :: (Op.checkpointPaths rule.program).map .register))
    (h : e.logged.commit rule.program s = (.error err, s')) :
    Dialogue rule (s'.2 ++ accepted [.abandonRule]) (.error ⟨rule.name, rule.pos, .emitterRejection err⟩) := by
  rw [Emitter.commit] at h
  rcases hr : e.logged.replay rule.program s with ⟨_ | _, s₁⟩ <;> rw [hr] at h
  · cases h
    obtain ⟨before, op, after, split, hlog⟩ := log_of_replay_error hr
    rw [hlog, begun, ← List.append_assoc, ← accepted_append, List.append_assoc]
    exact .operationRefused before op after err split
  · rw [log_of_finishRule h, log_of_replay_ok hr, begun, ← accepted_append, List.append_assoc]
    exact .finishRefused err

theorem dialogue_of_commit_ok {s s' : σ × List Exchange}
    (begun : s.2 = accepted (.beginRule rule.name rule.pos :: (Op.checkpointPaths rule.program).map .register))
    (h : e.logged.commit rule.program s = (.ok (), s')) : Dialogue rule s'.2 (.ok rule.program) := by
  rw [Emitter.commit] at h
  rcases hr : e.logged.replay rule.program s with ⟨_ | _, s₁⟩ <;> rw [hr] at h
  · cases h
  · rw [log_of_finishRule h, log_of_replay_ok hr, begun, ← accepted_append]
    have := @Dialogue.committed rule
    rw [accepted_append] at this
    exact this

/-- Whatever the emitter, its answers, the naming policy and the rule: the calls for the rule are one
of the dialogues, and the result is the one that belongs to it. The log has no part in either. -/
theorem compose_dialogue (e : Emitter σ γ) (normalize : String → String) (rule : Rule) (s : σ) :
    (compose e.logged normalize rule (s, [])).result = (compose e normalize rule s).result ∧
    (compose e.logged normalize rule (s, [])).state.1 = (compose e normalize rule s).state ∧
    Dialogue rule (compose e.logged normalize rule (s, [])).state.2 (compose e normalize rule s).result := by
  obtain ⟨hresult, hstate⟩ := e.mirrors_logged.compose normalize rule (s, [])
  refine ⟨hresult.symm, hstate.symm, ?_⟩
  rw [show (compose e normalize rule s).result = _ from hresult]
  have course := compose_course e.logged normalize rule (s, [])
  generalize (compose e.logged normalize rule (s, [])).result = result at course ⊢
  generalize (compose e.logged normalize rule (s, [])).state = state at course ⊢
  cases course with
  | refused begun =>
    rw [log_of_beginRule begun]
    exact .turnedAway _
  | rejected begun walked => exact dialogue_of_performAll_error begun walked
  | @dropped tracker s' s'' err d begun walked committed =>
    rw [ops_of_performAll walked] at committed
    exact dialogue_of_commit_error (by rw [log_of_performAll_ok walked, log_of_beginRule begun]; rfl) committed
  | @committed tracker s' s'' d begun walked committed =>
    rw [ops_of_performAll walked] at committed ⊢
    exact dialogue_of_commit_ok (by rw [log_of_performAll_ok walked, log_of_beginRule begun]; rfl) committed

end

end LineRules
