/-
Well-formed rules: the rules of the language, stated for the places of a rule, and what the tasks of a
rule ask for under a naming policy. Names that pass their checks hold no dot, so that the texts of
paths stand for their segments: fields and checkpoints may be compared by either.
-/
import LineRules.Proofs.Compose.Places
import LineRules.Proofs.Naming.Letters

namespace LineRules

/-! ## Rules of the language -/

/-- Names are not empty and in the style of the policy. -/
def Rule.ProperlyNamed (normalize : String → String) (rule : Rule) : Prop :=
  ∀ p ∈ rule.places, ∀ name, p.action.name? = some name → name ≠ "" ∧ normalize name = name

/-- What a rule must be, under a naming policy. -/
structure Rule.WellFormed (normalize : String → String) (rule : Rule) : Prop where
  /-- In an unnamed area nothing is captured and no named area is opened. -/
  outside : ∀ p ∈ rule.places, p.action.name? ≠ none → none ∉ p.areas
  /-- The areas and fields have names as the policy wants them. -/
  names : rule.ProperlyNamed normalize
  /-- No two fields are captured in the same areas under the same name. -/
  fields : (rule.places.filterMap Place.captured?).Nodup
  /-- Delimiters are known where they are needed. -/
  limits : ∀ p ∈ rule.places, ∀ pos s, p.action = .step pos s → s.LimitResolves
  /-- No scope is left by a checkpoint and entered again by a later one. -/
  scopes : Path.Contiguous Path.Inside (rule.places.filterMap Place.checkpoint?)

/-! ## Names -/

/-- What holds of every name in a rule holds of the names around its actions. -/
theorem Rule.forall_names {rule : Rule} {P : String → Prop}
    (h : ∀ p ∈ rule.places, ∀ name, p.action.name? = some name → P name) :
    ∀ p ∈ rule.places, ∀ name ∈ p.names, P name := by
  intro p hp name hn
  rcases Action.mem_names_placesAll rule.actions [] hp hn with h' | ⟨q, hq, hname⟩
  · cases h'
  · exact h q hq name hname

/-- A name passes its check if it is its own normal form and not empty. The text that stands in for an
empty normal form has a normal form, so it is no name that passes. -/
theorem Composer.expectedName_eq_iff {τ : Type} {c : Composer τ} {policy : NamingPolicy}
    (h : c.normalize = policy.normalize) (name : String) :
    c.expectedName name = name ↔ name ≠ "" ∧ policy.normalize name = name := by
  have stand_in : policy.normalize "a non-empty alphanumeric name" ≠ "" := by
    cases policy <;> decide +kernel
  simp only [expectedName, h]
  split
  · -- without a normal form the name is refused, even if it is the text that the message suggests
    rename_i empty
    constructor
    · rintro rfl
      exact absurd empty stand_in
    · rintro ⟨ne, own⟩
      exact absurd (own.symm.trans empty) ne
  · rename_i ne
    exact ⟨fun own => ⟨fun empty => ne (own.trans empty), own⟩, And.right⟩

theorem Composer.checkName_ok_iff {τ : Type} {c : Composer τ} {what : Named} {name : String} {pos : Pos}
    {d : Draft τ} : (c.checkName what name pos d).1 = .ok () ↔ c.expectedName name = name := by
  unfold Composer.checkName
  split
  · rename_i own
    exact ⟨fun _ => own, fun _ => rfl⟩
  · rename_i other
    exact ⟨fun h => (by cases h), fun own => absurd own other⟩

/-- The name that an error suggests in place of another is accepted if it is a normal form that normalizing
does not change again. -/
theorem Composer.checkName_suggestion_ok_iff {τ : Type} {c : Composer τ} {policy : NamingPolicy} {what : Named}
    {name suggestion : String} {pos : Pos} {d : Draft τ} (h : c.normalize = policy.normalize)
    (refused : (c.checkName what name pos d).1 = .error ⟨c.rule, pos, .invalidIdentifier what name suggestion⟩)
    (ne : policy.normalize name ≠ "") :
    (c.checkName what suggestion pos d).1 = .ok () ↔
      policy.normalize (policy.normalize name) = policy.normalize name := by
  have suggested : suggestion = policy.normalize name := by
    unfold Composer.checkName at refused
    split at refused
    · cases refused
    · cases refused
      rw [expectedName, h, if_neg ne]
  rw [checkName_ok_iff, expectedName_eq_iff h, suggested]
  exact ⟨And.right, fun stable => ⟨ne, stable⟩⟩

theorem Action.name?_of_field? {a : Action} {field : Field} (h : a.field? = some field) :
    a.name? = some field.name := by
  cases a with
  | unnamed pos body => cases h
  | named pos name body => cases h
  | step pos s => exact congrArg (Option.map Field.name) h

/-! ## Paths -/

section

variable {p : Place} {path : List String}

theorem segmented_captured (around : Path.Segmented p.names)
    (own : ∀ name, p.action.name? = some name → name ≠ "" ∧ '.' ∉ name.toList) (h : p.captured? = some path) :
    Path.Segmented path := by
  obtain ⟨field, hf, rfl⟩ := Option.map_eq_some_iff.1 h
  intro name hn
  rcases List.mem_append.1 hn with hn | hn
  · exact around name hn
  · exact own name (List.mem_singleton.1 hn ▸ Action.name?_of_field? hf)

theorem segmented_checkpoint (around : Path.Segmented p.names)
    (own : ∀ name, p.action.name? = some name → name ≠ "" ∧ '.' ∉ name.toList) (h : p.checkpoint? = some path) :
    Path.Segmented path := by
  have hp : path = p.captured?.getD p.names := by
    unfold Place.checkpoint? at h
    split at h <;> cases h
    rfl
  rw [hp]
  cases hc : p.captured? with
  | none => exact around
  | some captured => exact segmented_captured around own hc

end

/-- In a rule whose names pass their checks, every path can be read back: no name is empty, and none holds
a dot. -/
theorem Rule.segmented_paths {policy : NamingPolicy} {rule : Rule}
    (h : rule.ProperlyNamed policy.normalize) :
    (∀ path ∈ rule.places.filterMap Place.captured?, Path.Segmented path) ∧
      ∀ path ∈ rule.places.filterMap Place.checkpoint?, Path.Segmented path := by
  have own : ∀ p ∈ rule.places, ∀ name, p.action.name? = some name → name ≠ "" ∧ '.' ∉ name.toList := by
    intro p hp name hn
    obtain ⟨ne, normal⟩ := h p hp name hn
    exact ⟨ne, normal ▸ policy.dot_notMem_normalize name⟩
  have around : ∀ p ∈ rule.places, Path.Segmented p.names := rule.forall_names own
  constructor <;> intro path hpath <;> obtain ⟨p, hp, hpath⟩ := List.mem_filterMap.1 hpath
  · exact segmented_captured (around p hp) (own p hp) hpath
  · exact segmented_checkpoint (around p hp) (own p hp) hpath

/-- Of segments, none is left out when they are joined. -/
theorem map_join_filter {paths : List (List String)} (h : ∀ p ∈ paths, Path.Segmented p) :
    (paths.map fun names => Path.join (names.filter (· ≠ ""))) = paths.map Path.join := by
  refine List.map_congr_left fun names hn => ?_
  rw [List.filter_eq_self.2 fun name hname => by simpa using (h names hn name hname).1]

/-! ## Tasks of a rule -/

section

variable {σ γ : Type} (e : Emitter σ γ) (policy : NamingPolicy) (rule : Rule)

theorem holds_tasks_iff :
    (e.tasks policy.normalize rule).all Task.holds = true ↔
      (∀ p ∈ rule.places, p.action.name? ≠ none → none ∉ p.areas) ∧
      rule.ProperlyNamed policy.normalize ∧
      ∀ p ∈ rule.places, ∀ pos s, p.action = .step pos s → s.LimitResolves := by
  have names : ∀ name, (e.composer policy.normalize rule).expectedName name = name ↔
      name ≠ "" ∧ policy.normalize name = name := Composer.expectedName_eq_iff rfl
  have h := (e.composer policy.normalize rule).holds_tasksAll rule.actions []
  simp only [Composer.holds_checks, forall_and] at h
  simp only [names] at h
  exact h

variable {policy rule}

theorem declared_tasks (names : rule.ProperlyNamed policy.normalize) :
    (e.tasks policy.normalize rule).filterMap Task.declared? =
      (rule.places.filterMap Place.captured?).map Path.join :=
  ((e.composer policy.normalize rule).declared_tasksAll rule.actions []).trans
    (map_join_filter (Rule.segmented_paths names).1)

theorem registered_tasks (names : rule.ProperlyNamed policy.normalize) :
    (e.tasks policy.normalize rule).filterMap Task.registered? =
      (rule.places.filterMap Place.checkpoint?).map Path.join :=
  ((e.composer policy.normalize rule).registered_tasksAll rule.actions []).trans
    (map_join_filter (Rule.segmented_paths names).2)

end

end LineRules
