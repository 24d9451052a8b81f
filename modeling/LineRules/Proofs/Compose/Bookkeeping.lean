/-
The books of the walk: where it stands, what stands ready and which fields it has met. However a walk
ends, it stands again where it began, and what was on the draft is still there. To speak of a walk that
is under way, it is watched: the watched walk is the walk, but it also writes down its draft whenever it
comes to an action and whenever it leaves an unnamed area. Main statement: on every way out the books are
as they should be, no unnamed area is left that was not entered, and at every action the depth is the
number of unnamed areas among the segments.
-/
import LineRules.Proofs.Compose.Duplicates

namespace LineRules

variable {τ : Type}

/-! ## What a walk keeps -/

/-- One draft comes after another in a walk that has left again whatever it entered: it stands in the
same place, operations were only put behind the others, and every field met before has its path and its
type. -/
structure Draft.Grows (d d' : Draft τ) : Prop where
  segments : d'.segments = d.segments
  unnamedDepth : d'.unnamedDepth = d.unnamedDepth
  ops : d.ops <+: d'.ops
  fields : ∀ path type, d.fields.lookup path = some type → d'.fields.lookup path = some type

theorem Draft.Grows.refl (d : Draft τ) : d.Grows d := ⟨rfl, rfl, List.prefix_rfl, fun _ _ h => h⟩

theorem Draft.Grows.trans {d d₁ d₂ : Draft τ} (h : d.Grows d₁) (h' : d₁.Grows d₂) : d.Grows d₂ where
  segments := h'.segments.trans h.segments
  unnamedDepth := h'.unnamedDepth.trans h.unnamedDepth
  ops := h.ops.trans h'.ops
  fields path type hf := h'.fields path type (h.fields path type hf)

/-- The tracker and the journal do not count. -/
theorem Draft.grows_aside (d : Draft τ) (tracker : τ) (journal : List Event) :
    d.Grows { d with tracker := tracker, journal := journal } :=
  ⟨rfl, rfl, List.prefix_rfl, fun _ _ h => h⟩

theorem Draft.grows_push (op : Op) (d : Draft τ) : d.Grows (d.push op) :=
  ⟨rfl, rfl, List.prefix_append d.ops [op], fun _ _ h => h⟩

theorem Draft.grows_declare {path : String} {d : Draft τ} (new : d.fields.lookup path = none) (type : FieldType) :
    d.Grows { d with fields := (path, type) :: d.fields } := by
  refine ⟨rfl, rfl, List.prefix_rfl, fun path' type' h => ?_⟩
  have other : path' ≠ path := by
    rintro rfl
    rw [new] at h
    cases h
  rwa [List.lookup_cons, beq_false_of_ne other]

namespace Composer

variable (c : Composer τ)

theorem grows_perform (t : Task) (d : Draft τ) : d.Grows (c.perform t d).2 := by
  cases t with
  | require holds error => cases holds <;> exact .refl d
  | declare path field =>
    simp only [perform]
    split
    · exact .refl d
    · rename_i new
      exact Draft.grows_declare new field.type
  | checkpoint path pos =>
    simp only [perform]
    split
    · exact (d.grows_aside _ d.journal).trans (Draft.grows_push (.checkpoint path) _)
    · exact d.grows_aside _ d.journal
  | emit op => exact Draft.grows_push op d
  | note event => exact d.grows_aside d.tracker _
  | reach a => exact d.grows_aside d.tracker _

/-- What holds between the drafts before and after every task holds between those before and after all of
them. -/
theorem performAll_relates {R : Draft τ → Draft τ → Prop} (refl : ∀ d, R d d)
    (trans : ∀ {d d₁ d₂}, R d d₁ → R d₁ d₂ → R d d₂) {ts : List Task}
    (step : ∀ t ∈ ts, ∀ d, R d (c.perform t d).2) (d : Draft τ) : R d (c.performAll ts d).2 := by
  induction ts generalizing d with
  | nil => exact refl d
  | cons t ts ih =>
    obtain ⟨ht, hr⟩ := List.forall_mem_cons.1 step
    have first := ht d
    simp only [performAll_cons, Walk.andThen]
    rcases hp : c.perform t d with ⟨_ | _, d₁⟩ <;> rw [hp] at first
    · exact first
    · exact trans first (ih hr d₁)

theorem grows_performAll (ts : List Task) (d : Draft τ) : d.Grows (c.performAll ts d).2 :=
  c.performAll_relates .refl .trans (fun t _ => c.grows_perform t) d

theorem grows_walkAll (acts : List Action) (d : Draft τ) : d.Grows (c.walkAll acts d).2 := by
  rw [walkAll_eq]
  exact c.grows_performAll _ d

end Composer

/-! ## The watched walk -/

/-- What is seen of a walk that is under way. -/
inductive Sight (τ : Type)
  /-- The walk comes to an action. -/
  | reached (action : Action) (draft : Draft τ)
  /-- The walk is about to leave an unnamed area, and the depth to be lowered. -/
  | leaving (draft : Draft τ)

/-- A tracker along with what was seen. -/
abbrev Watching (τ : Type) := τ × List (Sight τ)

namespace Draft

/-- The draft at the beginning of a watched walk. -/
def watched (d : Draft τ) : Draft (Watching τ) := d.mapTracker (·, [])

/-- The draft without what was seen. -/
def unwatched (d : Draft (Watching τ)) : Draft τ := d.mapTracker Prod.fst

/-- What was seen so far. -/
def sights (d : Draft (Watching τ)) : List (Sight τ) := d.tracker.2

/-- Something more is seen. -/
def see (sight : Sight τ) (d : Draft (Watching τ)) : Draft (Watching τ) :=
  d.mapTracker fun t => (t.1, t.2 ++ [sight])

end Draft

/-- A piece inside an unnamed area, which is seen being left. -/
def Walk.inUnnamedWatched (body : Walk (Watching τ)) : Walk (Watching τ) := fun d =>
  let (answer, d) := tied "" body { d with unnamedDepth := d.unnamedDepth + 1 }
  let d := d.see (.leaving d.unwatched)
  (answer, { d with unnamedDepth := d.unnamedDepth - 1 })

namespace Composer

variable (c : Composer τ)

open Walk

/-- The composer of the watched walk, for whose checkpoints it makes no difference what was seen. -/
def watched : Composer (Watching τ) where
  rule := c.rule
  normalize := c.normalize
  register path t := ((c.register path t.1).1, (c.register path t.1).2, t.2)

/-- An action is seen when it is reached. -/
def reachWatched (a : Action) : Walk (Watching τ) :=
  all [c.watched.reach a, update fun d => d.see (.reached a d.unwatched)]

mutual

/-- The walk over an action, watched. -/
def watch : Action → Walk (Watching τ)
  | .unnamed pos body =>
    all [
      emit (.openUnnamed pos),
      inUnnamedWatched (watchAll body),
      emit .closeUnnamed,
      note (.endOfUnnamed c.rule)]
  | .named pos name body =>
    all [
      c.watched.outsideUnnamed .namedArea pos,
      c.watched.checkName .option name pos,
      c.watched.checkpoint pos,
      emit (.openNamed name pos),
      tied name (watchAll body),
      emit .closeNamed,
      note (.endOfNamed c.rule name)]
  | .step pos s => c.watched.step pos s

/-- The walk over actions, watched. -/
def watchAll : List Action → Walk (Watching τ)
  | [] => done
  | a :: rest => all [c.reachWatched a, watch a, watchAll rest]

end

/-- What is seen of the walk over actions from a draft on. -/
def sights (acts : List Action) (d : Draft τ) : List (Sight τ) := (c.watchAll acts d.watched).2.sights

end Composer

/-- The entry of the journal that goes with what is seen. -/
def Sight.dispatch? (rule : String) : Sight τ → Option Event
  | reached a d => some (.dispatch rule a.kind a.pos d.ops.length)
  | leaving _ => none

/-- The depth is the number of unnamed areas among the segments. -/
def Draft.Balanced (d : Draft τ) : Prop := d.unnamedDepth = d.segments.count ""

/-! ## What the watched walk tells -/

namespace Composer

variable {c : Composer τ} {v v' : Walk (Watching τ)} {w w' : Walk τ} {d : Draft (Watching τ)}
  {seen : List (Sight τ)}

open Walk

variable (c) in
/-- A piece of the watched walk took the draft `d` to an outcome, and `seen` was seen on the way. The
piece `w` of the walk does the same; the piece has left again whatever it entered; every action seen is
in the journal, and the other way round; and the depth was as it should be wherever it was seen. -/
structure Account (w : Walk τ) (d : Draft (Watching τ)) (outcome : Except RuleError Unit × Draft (Watching τ))
    (seen : List (Sight τ)) : Prop where
  same : w d.unwatched = (outcome.1, outcome.2.unwatched)
  segments : outcome.2.segments = d.segments
  unnamedDepth : outcome.2.unnamedDepth = d.unnamedDepth
  sights : outcome.2.sights = d.sights ++ seen
  journal : outcome.2.journal.filter Event.isDispatch =
    d.journal.filter Event.isDispatch ++ seen.filterMap (Sight.dispatch? c.rule)
  leaving : ∀ draft, .leaving draft ∈ seen → 0 < draft.unnamedDepth
  reached : d.Balanced → ∀ a draft, .reached a draft ∈ seen → draft.Balanced

variable (c) in
/-- A piece of the watched walk stands for a piece of the walk, wherever it begins. -/
def Tells (v : Walk (Watching τ)) (w : Walk τ) : Prop := ∀ d, ∃ seen, c.Account w d (v d) seen

theorem Account.andThen (h : c.Account w d (v d) seen)
    (next : ∀ d₁, v d = (.ok (), d₁) → ∃ seen', c.Account w' d₁ (v' d₁) seen') :
    ∃ seen, c.Account (w.andThen w') d (v.andThen v' d) seen := by
  rcases hv : v d with ⟨e | _, d₁⟩ <;> rw [hv] at h
  · have failed : v.andThen v' d = (.error e, d₁) := by simp only [Walk.andThen, hv]
    refine ⟨seen, ?_⟩
    rw [failed]
    exact { h with same := by simp only [Walk.andThen, h.same] }
  · obtain ⟨seen', h'⟩ := next d₁ hv
    have went : v.andThen v' d = v' d₁ := by simp only [Walk.andThen, hv]
    refine ⟨seen ++ seen', ?_⟩
    rw [went]
    exact {
      same := by simp only [Walk.andThen, h.same, h'.same]
      segments := h'.segments.trans h.segments
      unnamedDepth := h'.unnamedDepth.trans h.unnamedDepth
      sights := by rw [h'.sights, h.sights, List.append_assoc]
      journal := by rw [h'.journal, h.journal, List.filterMap_append, List.append_assoc]
      leaving := fun draft hl => (List.mem_append.1 hl).elim (h.leaving draft) (h'.leaving draft)
      reached := fun hb a draft hr => by
        have hb₁ : d₁.Balanced := by rw [Draft.Balanced, h.segments, h.unnamedDepth]; exact hb
        exact (List.mem_append.1 hr).elim (h.reached hb a draft) (h'.reached hb₁ a draft) }

theorem Tells.cons {vs : List (Walk (Watching τ))} {ws : List (Walk τ)} (h : c.Tells v w)
    (hr : c.Tells (all vs) (all ws)) : c.Tells (all (v :: vs)) (all (w :: ws)) := by
  intro d
  obtain ⟨seen, account⟩ := h d
  exact account.andThen fun d₁ _ => hr d₁

theorem tells_nil : c.Tells (all []) (all []) := fun d =>
  ⟨[], { same := rfl, segments := rfl, unnamedDepth := rfl, sights := (List.append_nil _).symm
         journal := (List.append_nil _).symm, leaving := by simp, reached := by simp }⟩

theorem tells_tied {name : String} (hn : name ≠ "") (h : c.Tells v w) : c.Tells (tied name v) (tied name w) := by
  intro d
  obtain ⟨seen, account⟩ := h (d.tie name)
  refine ⟨seen, { account with same := ?_, segments := ?_, reached := fun hb => account.reached ?_ }⟩
  · have same : w (d.unwatched.tie name) = _ := account.same
    simp only [tied, same]
    rfl
  · exact congrArg List.tail account.segments
  · rw [Draft.Balanced, Draft.tie, List.count_cons_of_ne hn]
    exact hb

/-- An unnamed area is left with the depth at which its body began, which is not zero. -/
theorem tells_inUnnamed (h : c.Tells v w) : c.Tells (inUnnamedWatched v) (inUnnamed w) := by
  intro d
  let inner : Draft (Watching τ) := Draft.tie "" { d with unnamedDepth := d.unnamedDepth + 1 }
  obtain ⟨seen, account⟩ := h inner
  let last := (v inner).2.untie
  have depth : last.unnamedDepth = d.unnamedDepth + 1 := account.unnamedDepth
  have unnoted : [Sight.leaving last.unwatched].filterMap (Sight.dispatch? c.rule) = [] := rfl
  refine ⟨seen ++ [.leaving last.unwatched], ?_⟩
  exact {
    same := by
      have same : w (Draft.tie "" { d.unwatched with unnamedDepth := d.unwatched.unnamedDepth + 1 }) = _ :=
        account.same
      simp only [inUnnamed, tied, same]
      rfl
    segments := congrArg List.tail account.segments
    unnamedDepth := Nat.sub_eq_of_eq_add depth
    sights := by
      show (v inner).2.sights ++ [_] = d.sights ++ (seen ++ [_])
      rw [account.sights, List.append_assoc]
      rfl
    journal := by rw [List.filterMap_append, unnoted, List.append_nil]; exact account.journal
    leaving := fun draft hl => by
      rcases List.mem_append.1 hl with hl | hl
      · exact account.leaving draft hl
      · obtain rfl : draft = last.unwatched := by simpa using hl
        exact Nat.lt_of_lt_of_eq (Nat.succ_pos _) depth.symm
    reached := fun hb a draft hr => by
      have inside : inner.Balanced := by
        rw [Draft.Balanced, show inner.segments = "" :: d.segments from rfl, List.count_cons_self]
        exact congrArg (· + 1) hb
      exact account.reached inside a draft (by simpa using hr) }

end Composer

/-! ## Pieces that see nothing -/

namespace Composer

variable {c : Composer τ} {v : Walk (Watching τ)} {w : Walk τ}

open Walk

/-- A task that notes no action leaves the entries about actions as they are. -/
theorem journal_perform {t : Task} (h : t.dispatches = false) (d : Draft τ) :
    (c.perform t d).2.journal.filter Event.isDispatch = d.journal.filter Event.isDispatch := by
  cases t with
  | require holds error => cases holds <;> rfl
  | declare path field =>
    simp only [perform]
    split <;> rfl
  | checkpoint path pos =>
    simp only [perform]
    split <;> rfl
  | emit op => rfl
  | note event =>
    have quiet : event.isDispatch = false := h
    simp [perform, Walk.note, update, Draft.note, quiet]
  | reach a => cases h

theorem journal_performAll {ts : List Task} (h : ∀ t ∈ ts, t.dispatches = false) (d : Draft τ) :
    (c.performAll ts d).2.journal.filter Event.isDispatch = d.journal.filter Event.isDispatch :=
  c.performAll_relates
    (R := fun d d' => d'.journal.filter Event.isDispatch = d.journal.filter Event.isDispatch)
    (fun _ => rfl) (fun h h' => h'.trans h) (fun t ht => journal_perform (h t ht)) d

theorem mirrors_watched : Mirrors Prod.fst c.watched c := ⟨rfl, rfl, fun _ _ => rfl⟩

/-- Pieces that perform the same tasks stand for each other. If none of the tasks notes an action,
nothing is seen. -/
theorem tells_of_does (ts : List String → Nat → List Task)
    (quiet : ∀ segments depth, ∀ t ∈ ts segments depth, t.dispatches = false)
    (hv : ∀ segments depth, c.watched.Does segments depth v (ts segments depth))
    (hw : ∀ segments depth, c.Does segments depth w (ts segments depth)) : c.Tells v w := by
  intro d
  obtain ⟨segments, unnamedDepth⟩ := c.watched.performAll_place (ts d.segments d.unnamedDepth) d
  refine ⟨[], ?_⟩
  rw [hv d.segments d.unnamedDepth d rfl rfl]
  exact {
    same := by
      rw [hw d.segments d.unnamedDepth d.unwatched rfl rfl]
      exact mirrors_watched.performAll _ d
    segments := segments
    unnamedDepth := unnamedDepth
    sights := by
      rw [List.append_nil]
      exact c.watched.performAll_tracker (R := fun t => t.2 = d.sights) (fun _ _ h => h) _ d rfl
    journal := by
      rw [List.filterMap_nil, List.append_nil]
      exact journal_performAll (quiet _ _) d
    leaving := by simp
    reached := by simp }

theorem tells_perform {t : Task} (h : t.dispatches = false) : c.Tells (c.watched.perform t) (c.perform t) :=
  tells_of_does (fun _ _ => [t]) (by simpa using h) (fun _ _ => does_perform t) fun _ _ => does_perform t

theorem tells_emit (op : Op) : c.Tells (emit op) (emit op) := tells_perform (t := .emit op) rfl

theorem tells_note {event : Event} (h : event.isDispatch = false) : c.Tells (note event) (note event) :=
  tells_perform (t := .note event) h

/-! ## The whole walk -/

theorem tells_outsideUnnamed (what : Forbidden) (pos : Pos) :
    c.Tells (c.watched.outsideUnnamed what pos) (c.outsideUnnamed what pos) :=
  tells_of_does (fun _ depth => [c.outsideTask depth what pos]) (by simp [outsideTask, Task.dispatches])
    (fun _ _ => does_outsideUnnamed what pos) fun _ _ => does_outsideUnnamed what pos

theorem tells_checkName (what : Named) (name : String) (pos : Pos) :
    c.Tells (c.watched.checkName what name pos) (c.checkName what name pos) :=
  tells_of_does (fun _ _ => [c.nameTask what name pos]) (by simp [nameTask, Task.dispatches])
    (fun _ _ => does_checkName what name pos) fun _ _ => does_checkName what name pos

theorem tells_checkpoint (pos : Pos) : c.Tells (c.watched.checkpoint pos) (c.checkpoint pos) :=
  tells_of_does (fun segments _ => [.checkpoint (Draft.pathOf segments) pos]) (by simp [Task.dispatches])
    (fun _ _ => does_checkpoint pos) fun _ _ => does_checkpoint pos

theorem tells_step (pos : Pos) (s : Step) : c.Tells (c.watched.step pos s) (c.step pos s) := by
  refine tells_of_does (fun segments depth => c.stepTasks segments depth pos s)
    (fun _ _ => c.not_dispatches_stepTasks _ _ pos s) (fun segments depth => ?_) fun _ _ => does_step pos s
  have same : c.watched.stepTasks segments depth pos s = c.stepTasks segments depth pos s := by cases s <;> rfl
  rw [← same]
  exact does_step pos s

/-- The entry in the journal goes with what is seen. -/
theorem tells_reach (a : Action) : c.Tells (c.reachWatched a) (c.reach a) := fun d =>
  ⟨[.reached a (d.unwatched.note (.dispatch c.rule a.kind a.pos d.ops.length))], {
    same := rfl
    segments := rfl
    unnamedDepth := rfl
    sights := rfl
    journal := List.filter_append ..
    leaving := by simp
    reached := fun hb b draft hr => by
      obtain ⟨rfl, rfl⟩ : b = a ∧ draft = _ := by simpa using hr
      exact hb }⟩

theorem ne_empty_of_checkName {what : Named} {name : String} {pos : Pos} {d d' : Draft τ}
    (h : c.checkName what name pos d = (.ok (), d')) : name ≠ "" := by
  rw [checkName] at h
  split at h
  · rename_i expected
    rw [← expected]
    exact c.expectedName_ne_empty name
  · cases h

theorem tells_unnamed {body : List Action} (pos : Pos) (h : c.Tells (c.watchAll body) (c.walkAll body)) :
    c.Tells (c.watch (.unnamed pos body)) (c.walk (.unnamed pos body)) := by
  unfold watch walk
  exact (tells_emit _).cons <| (tells_inUnnamed h).cons <| (tells_emit _).cons <| (tells_note rfl).cons tells_nil

theorem tells_named {body : List Action} (pos : Pos) (name : String)
    (h : c.Tells (c.watchAll body) (c.walkAll body)) :
    c.Tells (c.watch (.named pos name body)) (c.walk (.named pos name body)) := by
  unfold watch walk
  refine (tells_outsideUnnamed .namedArea pos).cons fun d => ?_
  -- the body is reached only if the name is not empty, and then its segment does not count as unnamed
  obtain ⟨seen, account⟩ := tells_checkName (c := c) .option name pos d
  refine account.andThen fun d₁ passed => ?_
  have body := tells_tied (ne_empty_of_checkName passed) h
  exact ((tells_checkpoint pos).cons <| (tells_emit _).cons <| body.cons <| (tells_emit _).cons <|
    (tells_note rfl).cons tells_nil) d₁

theorem tells_cons {a : Action} {rest : List Action} (ha : c.Tells (c.watch a) (c.walk a))
    (hr : c.Tells (c.watchAll rest) (c.walkAll rest)) :
    c.Tells (c.watchAll (a :: rest)) (c.walkAll (a :: rest)) := by
  unfold watchAll walkAll
  exact (tells_reach a).cons <| ha.cons <| hr.cons tells_nil

/-- The watched walk stands for the walk. -/
theorem tells_watchAll (acts : List Action) : c.Tells (c.watchAll acts) (c.walkAll acts) := by
  induction acts using Action.forest_induction with
  | nil =>
    unfold watchAll walkAll
    exact tells_nil
  | unnamed pos body rest hb hr => exact tells_cons (tells_unnamed pos hb) hr
  | named pos name body rest hb hr => exact tells_cons (tells_named pos name hb) hr
  | step pos s rest hr =>
    refine tells_cons ?_ hr
    unfold watch walk
    exact tells_step pos s

variable (c) in
/-- The account of a watched walk from its beginning. -/
theorem account_sights (acts : List Action) (d : Draft τ) :
    c.Account (c.walkAll acts) d.watched (c.watchAll acts d.watched) (c.sights acts d) := by
  obtain ⟨seen, account⟩ := tells_watchAll (c := c) acts d.watched
  have every : c.sights acts d = seen := account.sights
  rwa [every]

/-- However the walk over actions ends, at whatever depth, it stands again where it began, with the same
depth; the operations and the fields that were on the draft are there as they were. The watched walk is
the walk, and sees every action that the walk notes in its journal; wherever an unnamed area is left, the
depth that is then lowered is not zero; and in a walk that begins with a new draft, the depth is at every
action the number of empty names among the segments. -/
theorem walkAll_bookkeeping (c : Composer τ) (acts : List Action) (d : Draft τ) :
    d.Grows (c.walkAll acts d).2 ∧
    c.walkAll acts d = ((c.watchAll acts d.watched).1, (c.watchAll acts d.watched).2.unwatched) ∧
    ((c.walkAll acts d).2.journal.filter Event.isDispatch =
      d.journal.filter Event.isDispatch ++ (c.sights acts d).filterMap (Sight.dispatch? c.rule)) ∧
    (∀ draft, .leaving draft ∈ c.sights acts d → 0 < draft.unnamedDepth) ∧
    ∀ tracker a draft, .reached a draft ∈ c.sights acts { tracker := tracker } →
      draft.unnamedDepth = draft.segments.count "" := by
  have account := c.account_sights acts d
  have same : c.walkAll acts d = _ := account.same
  refine ⟨c.grows_walkAll acts d, same, ?_, account.leaving, fun tracker => ?_⟩
  · rw [same]
    exact account.journal
  · exact (c.account_sights acts { tracker := tracker }).reached rfl

/-- A capture in an unnamed area within a named one: the walk fails with both of them open, after it has
reached three actions, and leaves them on its way out. -/
theorem walkAll_bookkeeping_failing :
    let c : Composer Unit :=
      { rule := "access", normalize := NamingPolicy.snake.normalize, register := fun _ t => (.ok (), t) }
    let acts : List Action :=
      [.named ⟨1, 1⟩ "user" [.unnamed ⟨2, 1⟩ [.step ⟨3, 1⟩ (.takeRest { name := "id", type := .string })]]]
    (c.walkAll acts { tracker := () }).1.isOk = false ∧ (c.walkAll acts { tracker := () }).2.segments = [] ∧
      (c.walkAll acts { tracker := () }).2.unnamedDepth = 0 ∧ (c.sights acts { tracker := () }).length = 4 := by
  intro c acts
  obtain ⟨grows, -⟩ := walkAll_bookkeeping c acts { tracker := () }
  exact ⟨by decide +kernel, grows.segments, grows.unnamedDepth, by decide +kernel⟩

end Composer

end LineRules
