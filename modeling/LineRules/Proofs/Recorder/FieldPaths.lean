/-
How the paths of captured fields lie to each other. Two fields never have the same path, and the later
of two is never captured below the earlier: the area it would stand in is opened behind a checkpoint
outside the earlier field's path, and the tracker lets nobody come back. The other order is possible. A
field may have the path of an area right behind that area, with the fields captured in the area below
it; it may not, as soon as a checkpoint between the two lands elsewhere.
-/
import LineRules.Proofs.Compose.Calls
import LineRules.Proofs.Compose.Grammar
import LineRules.Proofs.Recorder.Acceptance
import LineRules.Proofs.Tracker.Visits
import Mathlib.Data.List.Induction

namespace LineRules

/-- The path goes on after the scope with a dot. -/
def Path.Below (path scope : String) : Prop := ∃ rest, path = scope ++ "." ++ rest

namespace Op

/-! ## Fields of a program -/

/-- A program declares a field at the path `p`, then comes `between`, and then it declares a field at the
path `q`. -/
def DeclaresThen (ops : List Op) (p : List String) (between : List Op) (q : List String) : Prop :=
  ∃ before name type pos name' type' pos' after,
    ops = before ++ declareField name type pos :: (between ++ declareField name' type' pos' :: after) ∧
    p = areaNames (areasAfterAll [] before) ++ [name] ∧
    q = areaNames (areasAfterAll [] (before ++ declareField name type pos :: between)) ++ [name']

theorem areasAfterAll_append (areas : List (Option String)) (xs ys : List Op) :
    areasAfterAll areas (xs ++ ys) = areasAfterAll (areasAfterAll areas xs) ys := List.foldl_append

theorem fieldPaths_append (areas : List (Option String)) (xs ys : List Op) :
    fieldPaths areas (xs ++ ys) = fieldPaths areas xs ++ fieldPaths (areasAfterAll areas xs) ys := by
  induction xs generalizing areas with
  | nil => rfl
  | cons op xs ih =>
    rw [List.cons_append, fieldPaths, fieldPaths, ih, List.append_assoc]
    rfl

/-- Two fields, one declared after the other, are among the fields of the program in this order. -/
theorem DeclaresThen.sublist {ops between : List Op} {p q : List String} (h : DeclaresThen ops p between q) :
    [p, q].Sublist (fieldPaths [] ops) := by
  obtain ⟨before, name, type, pos, name', type', pos', after, rfl, rfl, rfl⟩ := h
  have split : before ++ declareField name type pos :: (between ++ declareField name' type' pos' :: after) =
      (before ++ declareField name type pos :: between) ++ declareField name' type' pos' :: after := by simp
  rw [split, fieldPaths_append, fieldPaths_append]
  have first : [areaNames (areasAfterAll [] before) ++ [name]].Sublist
      (fieldPaths [] before ++ fieldPaths (areasAfterAll [] before) (declareField name type pos :: between)) :=
    List.singleton_sublist.2 (List.mem_append_right _ List.mem_cons_self)
  exact first.append (List.singleton_sublist.2 List.mem_cons_self)

theorem DeclaresThen.ne_nil {ops between : List Op} {p q : List String} (h : DeclaresThen ops p between q) :
    p ≠ [] ∧ q ≠ [] := by
  obtain ⟨before, name, type, pos, name', type', pos', after, -, rfl, rfl⟩ := h
  simp

/-! ## Areas that are opened on the way -/

/-- Only an operation that opens a named area adds to the names of the open areas. -/
theorem areaNames_areasAfter (areas : List (Option String)) (op : Op) :
    areaNames (op.areasAfter areas) <+: areaNames areas ∨ ∃ name pos, op = openNamed name pos := by
  have tail : areaNames areas.tail <+: areaNames areas := by
    cases areas with
    | nil => exact List.prefix_refl _
    | cons area areas =>
      cases area with
      | none => simp
      | some name => simp
  cases op with
  | openNamed name pos => exact .inr ⟨name, pos, rfl⟩
  | openUnnamed pos =>
    rw [areasAfter, areaNames_unnamed]
    exact .inl (List.prefix_refl _)
  | closeUnnamed => exact .inl tail
  | closeNamed => exact .inl tail
  | _ => exact .inl (List.prefix_refl _)

/-- Where one more named area stands open after operations than before them, one was opened right behind
a checkpoint outside it. -/
theorem checkpoint_mem_of_deeper {areas : List (Option String)} {ops : List Op} {previous : Op} {name : String}
    (opened : ∀ before area pos, before ++ [openNamed area pos] <+: ops →
      before.getLast?.or (some previous) = some (checkpoint (Path.join (areaNames (areasAfterAll areas before)))))
    (marked : previous.checkpoint? = none)
    (deeper : areaNames areas ++ [name] <+: areaNames (areasAfterAll areas ops)) :
    checkpoint (Path.join (areaNames areas)) ∈ ops := by
  -- from the end: the last operation either opens the area in question, or it stood open before it
  induction ops using List.reverseRecOn with
  | nil =>
    have longer := deeper.length_le
    rw [areasAfterAll, List.foldl_nil, List.length_append, List.length_singleton] at longer
    omega
  | append_singleton ops op ih =>
    have inits : ∀ before area pos, before ++ [openNamed area pos] <+: ops →
        before.getLast?.or (some previous) =
          some (checkpoint (Path.join (areaNames (areasAfterAll areas before)))) :=
      fun before area pos hp => opened before area pos (hp.trans (List.prefix_append ops [op]))
    rw [areasAfterAll_append] at deeper
    by_cases before : areaNames areas ++ [name] <+: areaNames (areasAfterAll areas ops)
    · exact List.mem_append_left _ (ih inits before)
    · rcases areaNames_areasAfter (areasAfterAll areas ops) op with closed | ⟨area, pos, rfl⟩
      · exact absurd (deeper.trans closed) before
      · -- the area is the one in question, since it was not open before
        have names : areaNames (areasAfterAll areas ops) = areaNames areas := by
          have after : areaNames (areasAfterAll (areasAfterAll areas ops) [openNamed area pos]) =
              areaNames (areasAfterAll areas ops) ++ [area] := areaNames_named area _
          rw [after, List.prefix_concat_iff] at deeper
          rcases deeper with same | shorter
          · exact (List.append_inj' same rfl).1.symm
          · exact absurd shorter before
        have behind := opened ops area pos (List.prefix_refl _)
        rw [names] at behind
        cases last : ops.getLast? with
        | none =>
          rw [last] at behind
          obtain rfl := Option.some.inj behind
          cases marked
        | some op =>
          rw [last] at behind
          obtain rfl := Option.some.inj behind
          exact List.mem_append_left _ (List.mem_of_getLast? last)

/-! ## Checkpoints of two fields -/

/-- The checkpoint of a field stands right in front of it, and there is no other between that of the
earlier of two fields and the operations behind it. -/
theorem DeclaresThen.checkpoints {ops between : List Op} {p q : List String} (fits : AllFit [] none ops)
    (h : DeclaresThen ops p between q) :
    ∃ earlier inner later, between = inner ++ [checkpoint (Path.join q)] ∧
      checkpointPaths ops = earlier ++ Path.join p :: (checkpointPaths inner ++ Path.join q :: later) := by
  obtain ⟨before, name, type, pos, name', type', pos', after, rfl, hp, hq⟩ := h
  obtain ⟨-, first, -⟩ := fits.fits
  have split : before ++ declareField name type pos :: (between ++ declareField name' type' pos' :: after) =
      (before ++ declareField name type pos :: between) ++ declareField name' type' pos' :: after := by simp
  rw [split] at fits
  obtain ⟨-, second, -⟩ := fits.fits
  rw [Option.or_none, ← hp, List.getLast?_eq_some_iff] at first
  rw [Option.or_none, ← hq, List.getLast?_append, List.getLast?_cons, Option.some_or, Option.some.injEq] at second
  obtain ⟨front, rfl⟩ := first
  -- a declaration is no checkpoint, so the checkpoint of the later field stands behind the earlier one
  cases last : between.getLast? with
  | none =>
    rw [last] at second
    cases second
  | some op =>
    rw [last] at second
    obtain rfl : op = checkpoint (Path.join q) := second
    obtain ⟨inner, rfl⟩ := List.getLast?_eq_some_iff.1 last
    refine ⟨checkpointPaths front, inner, checkpointPaths after, rfl, ?_⟩
    simp [checkpointPaths, List.filterMap_cons, checkpoint?]

/-- If the later of two fields is captured below the earlier, then there is a checkpoint between them that
lies outside the earlier: the one in front of the area with the earlier field's name. -/
theorem DeclaresThen.checkpoint_outside {ops between : List Op} {p q : List String} (fits : AllFit [] none ops)
    (h : DeclaresThen ops p between q) (below : p <+: q) (apart : p ≠ q) :
    checkpoint (Path.join p.dropLast) ∈ between := by
  obtain ⟨before, name, type, pos, name', type', pos', after, rfl, rfl, rfl⟩ := h
  have deeper := (List.prefix_concat_iff.1 below).resolve_left apart
  rw [areasAfterAll_append] at deeper
  rw [List.dropLast_concat]
  refine checkpoint_mem_of_deeper ?_ (show (declareField name type pos).checkpoint? = none from rfl) deeper
  rintro front area place ⟨back, rfl⟩
  have split : before ++ declareField name type pos ::
      (front ++ [openNamed area place] ++ back ++ declareField name' type' pos' :: after) =
      (before ++ declareField name type pos :: front) ++ openNamed area place ::
        (back ++ declareField name' type' pos' :: after) := by simp
  rw [split] at fits
  obtain ⟨-, behind⟩ := fits.fits
  rw [areasAfterAll_append, Option.or_none, List.getLast?_append, List.getLast?_cons] at behind
  rw [Option.or_some]
  exact behind

/-- Between the checkpoints of two fields in one scope, all checkpoints lie in that scope. -/
theorem DeclaresThen.liesIn_between {ops between : List Op} {p q : List String} {scope path : String}
    (fits : AllFit [] none ops) (stretches : Path.Contiguous Path.LiesIn (checkpointPaths ops))
    (h : DeclaresThen ops p between q) (hp : Path.LiesIn (Path.join p) scope)
    (hq : Path.LiesIn (Path.join q) scope) (hpath : checkpoint path ∈ between) : Path.LiesIn path scope := by
  obtain ⟨earlier, inner, later, rfl, paths⟩ := h.checkpoints fits
  rcases List.mem_append.1 hpath with hpath | hpath
  · have inside : path ∈ checkpointPaths inner := List.mem_filterMap.2 ⟨_, hpath, rfl⟩
    refine stretches scope (Path.join p) path (Path.join q) ?_ hp hq
    rw [paths]
    have tail : [path, Path.join q].Sublist (checkpointPaths inner ++ Path.join q :: later) :=
      (List.singleton_sublist.2 inside).append (List.singleton_sublist.2 List.mem_cons_self)
    exact (tail.cons_cons (Path.join p)).trans (List.sublist_append_right earlier _)
  · obtain rfl := checkpoint.inj (List.mem_singleton.1 hpath)
    exact hq

end Op

/-! ## Composed rules -/

open LineRules.Path

theorem Path.liesIn_iff {path scope : String} (h : scope ≠ "") :
    LiesIn path scope ↔ path = scope ∨ Below path scope :=
  and_iff_right h

theorem Path.liesIn_join_iff {p q : List String} (hp : Segmented p) (hq : Segmented q) (ne : q ≠ []) :
    LiesIn (join p) (join q) ↔ q <+: p := by
  rw [← within_toList_iff, within_join hp]
  constructor
  · rintro ⟨r, -, hr, he⟩
    rwa [join_injective hq (hp.mono hr) (String.toList_inj.1 he)]
  · intro h
    exact ⟨q, ne, h, rfl⟩

namespace Recorder

variable {policy : NamingPolicy} {rule : Rule} {r : Recorder} {ops : List Op}

/-- The checkpoints of a rule that the recorder has committed visit every scope in one stretch. -/
theorem contiguous_checkpointPaths {normalize : String → String}
    (h : (compose emitter normalize rule r).result = .ok ops) :
    Contiguous LiesIn (Op.checkpointPaths ops) := by
  have course := compose_course emitter normalize rule r
  rw [h] at course
  cases course with
  | committed begun walked committed =>
    obtain ⟨-, rfl, -⟩ := beginRule_ok begun
    obtain ⟨drafted, -⟩ := (emitter.composer normalize rule).performAll_ok walked
    obtain ⟨-, -, registered⟩ :=
      ((emitter.composer normalize rule).performAll_ok_iff _ _).1 (congrArg Prod.fst walked)
    have proper := (emitter.composer normalize rule).proper_tasksAll rule.actions [] 0
    rw [Emitter.tasks, registered_eq_checkpointPaths proper] at registered
    have stretches := (registerAll_ok_iff normalize rule Tracker.tracks_nil contiguous_nil _ _).1 registered
    rw [List.nil_append, contiguous_map_toList_iff] at stretches
    rw [drafted]
    exact stretches

/-- The paths of the fields of a composed rule can be read back. -/
theorem segmented_fieldPaths (h : (compose emitter policy.normalize rule r).result = .ok ops) :
    ∀ p ∈ Op.fieldPaths [] ops, Segmented p := by
  obtain ⟨names, program, -, -⟩ := fit_of_compose_ok h
  have paths := fieldPaths_programAll [] [] rule.actions
  rw [List.append_nil, Op.fieldPaths, List.append_nil] at paths
  rw [program, show Op.fieldPaths [] rule.program = rule.places.filterMap Place.captured? from paths]
  exact (Rule.segmented_paths names).1

theorem segmented_of_declaresThen {between : List Op} {p q : List String}
    (h : (compose emitter policy.normalize rule r).result = .ok ops) (fields : Op.DeclaresThen ops p between q) :
    Segmented p ∧ Segmented q := by
  have segmented := segmented_fieldPaths h
  have mem := fields.sublist.subset
  exact ⟨segmented p (mem (by simp)), segmented q (mem (by simp))⟩

/-- The later of two fields is captured neither at the path of the earlier nor below it. -/
theorem not_prefix_of_declaresThen {between : List Op} {p q : List String}
    (h : (compose emitter policy.normalize rule r).result = .ok ops) (fields : Op.DeclaresThen ops p between q) :
    ¬ p <+: q := by
  intro below
  obtain ⟨-, -, fits, distinct⟩ := fit_of_compose_ok h
  obtain ⟨hp, hq⟩ := segmented_of_declaresThen h fields
  have apart : p ≠ q := by simpa using (List.Nodup.of_map _ distinct).sublist fields.sublist
  have ne : p ≠ [] := fields.ne_nil.1
  -- of the checkpoints between the two fields, one lies outside the earlier, and none may
  have outside := fields.checkpoint_outside fits below apart
  have inside := fields.liesIn_between fits (contiguous_checkpointPaths h)
    ((liesIn_join_iff hp hp ne).2 (List.prefix_refl p)) ((liesIn_join_iff hq hp ne).2 below) outside
  have longer := ((liesIn_join_iff (hp.mono (List.dropLast_prefix p)) hp ne).1 inside).length_le
  rw [List.length_dropLast] at longer
  have := List.length_pos_iff.2 ne
  omega

/-- In the plan of a rule that is committed, no two fields have the same path, and the later of two is not
captured below the earlier. The earlier is captured below the later only where every checkpoint between
them lies at the path of the later or below it. -/
theorem compose_ok_fields_apart (h : (compose emitter policy.normalize rule r).result = .ok ops) :
    ∃ plan, (compose emitter policy.normalize rule r).state.plans = r.plans ++ [plan] ∧ plan.ops = ops ∧
      ∀ p between q, Op.DeclaresThen plan.ops p between q →
        join p ≠ join q ∧ ¬ Below (join q) (join p) ∧
        (Below (join p) (join q) → ∀ path, .checkpoint path ∈ between → path = join q ∨ Below path (join q)) := by
  refine ⟨_, by rw [compose_ok_state h], rfl, fun p between q fields => ?_⟩
  obtain ⟨-, -, fits, -⟩ := fit_of_compose_ok h
  obtain ⟨hp, hq⟩ := segmented_of_declaresThen h fields
  obtain ⟨hp0, hq0⟩ := fields.ne_nil
  have nonempty : ∀ {path}, Segmented path → path ≠ [] → join path ≠ "" := fun hs ne he =>
    join_ne_nil hs ne (by rw [he]; rfl)
  have outside : ¬ LiesIn (join q) (join p) := by
    rw [liesIn_join_iff hq hp hp0]
    exact not_prefix_of_declaresThen h fields
  rw [liesIn_iff (nonempty hp hp0), not_or] at outside
  refine ⟨Ne.symm outside.1, outside.2, fun below path hpath => ?_⟩
  rw [← liesIn_iff (nonempty hq hq0)]
  exact fields.liesIn_between fits (contiguous_checkpointPaths h) ((liesIn_iff (nonempty hq hq0)).2 (.inr below))
    ((liesIn_iff (nonempty hq hq0)).2 (.inl rfl)) hpath

/-- A field right behind an area of the same name: the field in the area is captured below it, and no
checkpoint lies between the two but its own. -/
theorem compose_ok_fields_apart_behind_area :
    let rule : Rule := { name := "access", actions := [
      .named ⟨1, 1⟩ "user" [.step ⟨1, 8⟩ (.takeRest { name := "id", type := .int32 })],
      .step ⟨2, 1⟩ (.takeRest { name := "user", type := .string })] }
    ∃ ops, (compose emitter NamingPolicy.snake.normalize rule {}).result = .ok ops ∧
      ∃ plan, (compose emitter NamingPolicy.snake.normalize rule {}).state.plans = [plan] ∧ plan.ops = ops ∧
        ∀ p between q, Op.DeclaresThen plan.ops p between q →
          join p ≠ join q ∧ ¬ Below (join q) (join p) ∧
          (Below (join p) (join q) → ∀ path, .checkpoint path ∈ between →
            path = join q ∨ Below path (join q)) := by
  intro rule
  have h : (compose emitter NamingPolicy.snake.normalize rule {}).result = .ok rule.program := by
    decide +kernel
  exact ⟨_, h, compose_ok_fields_apart h⟩

/-- Fields are not always leaves: that of an area may be captured below a field that stands right behind
the area and has its name. -/
theorem fields_not_all_leaves :
    ¬ ∀ (policy : NamingPolicy) (rule : Rule) (r : Recorder) (ops : List Op),
      (compose emitter policy.normalize rule r).result = .ok ops → ∀ p between q, Op.DeclaresThen ops p between q →
        join p ≠ join q ∧ ¬ Below (join q) (join p) ∧ ¬ Below (join p) (join q) := by
  intro leaves
  let rule : Rule := { name := "access", actions := [
    .named ⟨1, 1⟩ "user" [.step ⟨1, 8⟩ (.takeRest { name := "id", type := .int32 })],
    .step ⟨2, 1⟩ (.takeRest { name := "user", type := .string })] }
  have h : (compose emitter NamingPolicy.snake.normalize rule {}).result = .ok rule.program := by
    decide +kernel
  have fields : Op.DeclaresThen rule.program ["user", "id"]
      [.takeRest "id" .int32, .closeNamed, .checkpoint "user"] ["user"] :=
    ⟨[.checkpoint "", .openNamed "user" ⟨1, 1⟩, .checkpoint "user.id"], "id", .int32, {}, "user", .string, {},
      [.takeRest "user" .string], rfl, rfl, rfl⟩
  exact (leaves .snake rule {} _ h _ _ _ fields).2.2 ⟨"id", rfl⟩

end Recorder

end LineRules
