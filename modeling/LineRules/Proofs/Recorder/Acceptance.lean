/-
Which rules the recorder accepts. The walk decides on a rule with a stack of segments, a depth, the
fields met so far and a tracker, all of which change on the way; the rules of the language speak of
the tree as a whole. The two agree: a rule is composed onto a recorder exactly if its name is free
and it is well formed.
-/
import LineRules.Proofs.Compose.WellFormed
import LineRules.Proofs.Recorder.Atomicity
import LineRules.Proofs.Tracker

namespace LineRules.Recorder

open LineRules.Path

variable (normalize : String → String) (rule : Rule)

/-! ## Checkpoints -/

/-- The walk gets its checkpoints accepted exactly if every scope is visited in one stretch. -/
theorem registerAll_ok_iff {history : List (List Char)} {t : Tracker} (h : t.Tracks history)
    (hc : Contiguous (within · · = true) history) (paths : List String) (r : Recorder) :
    ((emitter.composer normalize rule).registerAll paths (t, r)).1 = .ok () ↔
      Contiguous (within · · = true) (history ++ paths.map String.toList) := by
  -- the history grows by each path that is accepted, and the tracker goes along with it
  induction paths generalizing history t with
  | nil => simp [Composer.registerAll, hc]
  | cons path rest ih =>
    have step : (emitter.composer normalize rule).register path (t, r) =
        ((t.register path).1, (t.register path).2, r) := rfl
    rw [Composer.registerAll, step]
    rcases h.register hc path with ⟨hr, hc'⟩ | ⟨hr, hn⟩ <;> rw [hr]
    · have := ih (h.moveTo path.toList) hc'
      rwa [List.append_assoc, List.singleton_append] at this
    · -- what comes later does not mend a scope that was entered again
      refine iff_of_false (by simp) fun hall => hn (hall.sublist ?_)
      rw [List.map_cons]
      exact (List.Sublist.refl history).append (List.singleton_sublist.2 List.mem_cons_self)

/-! ## Acceptance -/

/-- The walk over a rule for the recorder succeeds exactly if the rule is well formed. -/
theorem walk_ok_iff_wellFormed (policy : NamingPolicy) (r : Recorder) :
    ((emitter.composer policy.normalize rule).performAll (emitter.tasks policy.normalize rule)
      (Emitter.draft {} r)).1 = .ok () ↔ rule.WellFormed policy.normalize := by
  have fresh : ∀ paths, Composer.Fresh (Emitter.draft ({} : Tracker) r).fields paths ↔ paths.Nodup := by
    intro paths
    simp [Composer.Fresh, Emitter.draft]
  rw [Composer.performAll_ok_iff, holds_tasks_iff, fresh]
  -- once the names are known to be in order, the paths stand for their segments
  have paths (names : rule.ProperlyNamed policy.normalize) :
      (((emitter.tasks policy.normalize rule).filterMap Task.declared?).Nodup ↔
        (rule.places.filterMap Place.captured?).Nodup) ∧
      (((emitter.composer policy.normalize rule).registerAll
          ((emitter.tasks policy.normalize rule).filterMap Task.registered?) ({}, r)).1 = .ok () ↔
        Contiguous Inside (rule.places.filterMap Place.checkpoint?)) := by
    obtain ⟨captured, checkpoints⟩ := Rule.segmented_paths names
    rw [declared_tasks emitter names, registered_tasks emitter names, nodup_join_iff captured,
      registerAll_ok_iff policy.normalize rule Tracker.tracks_nil contiguous_nil, List.nil_append, List.map_map]
    exact ⟨Iff.rfl, contiguous_join_iff checkpoints⟩
  constructor
  · rintro ⟨⟨outside, names, limits⟩, fields, scopes⟩
    exact ⟨outside, names, (paths names).1.1 fields, limits, (paths names).2.1 scopes⟩
  · rintro ⟨outside, names, fields, limits, scopes⟩
    exact ⟨⟨outside, names, limits⟩, (paths names).1.2 fields, (paths names).2.2 scopes⟩

theorem plans_any_eq_false_iff (r : Recorder) (name : String) :
    r.plans.any (·.name == name) = false ↔ ∀ plan ∈ r.plans, plan.name ≠ name := by
  simp [List.any_eq_false]

/-- A rule is composed onto a recorder exactly if no committed plan has its name and it obeys the rules of
the language: nothing with a name stands in an unnamed area, names are in the style of the policy, no two
fields have the same path, every delimiter that is needed is known, and no scope is entered again after a
checkpoint has left it. -/
theorem compose_ok_iff_wellFormed (policy : NamingPolicy) (r : Recorder) :
    (∃ ops, (compose emitter policy.normalize rule r).result = .ok ops) ↔
      (∀ plan ∈ r.plans, plan.name ≠ rule.name) ∧ rule.WellFormed policy.normalize := by
  rw [← plans_any_eq_false_iff]
  have hc := compose_course emitter policy.normalize rule r
  generalize (compose emitter policy.normalize rule r).result = result at hc ⊢
  generalize (compose emitter policy.normalize rule r).state = state at hc
  cases hc with
  | refused begun =>
    obtain ⟨taken, -⟩ := beginRule_error begun
    simp [taken]
  | rejected begun walked =>
    obtain ⟨-, rfl, rfl⟩ := beginRule_ok begun
    rw [← walk_ok_iff_wellFormed rule policy, walked]
    simp
  | dropped begun walked committed =>
    rw [commit_of_performAll begun walked] at committed
    cases committed
  | committed begun walked committed =>
    obtain ⟨free, rfl, rfl⟩ := beginRule_ok begun
    have hw := walk_ok_iff_wellFormed rule policy (during r.plans { name := rule.name, pos := rule.pos, ops := [] } [])
    rw [walked] at hw
    exact iff_of_true ⟨_, rfl⟩ ⟨free, hw.1 rfl⟩

/-- An area that was left cannot be entered again under the same name. -/
example :
    let area : Action := .named {} "user" [.step {} .atEnd]
    (compose emitter NamingPolicy.snake.normalize { name := "access", actions := [area, area] } {}).result =
      .error ⟨"access", {}, .checkpointViolation (.scopeReentered "user")⟩ := by
  decide +kernel

end LineRules.Recorder
