/-
Documents that say the same. However often a document is edited, and wherever in it, the same rule set is loaded. Each
part is read as before from the members of an edited object and from the elements of an edited array; one edit is then
an induction on the way to its place, and any number of edits an induction on their number.
-/
import LineRules.Proofs.Document.Edits

namespace LineRules

open Document Json

namespace Document

/-! ## Records -/

section

variable {room : Nat} {members members' : List (Key × Json)}

theorem zeroPos_decoded (surplus : DecodeError) : ∀ v ∈ Part.zeroPos, Pos.ofJson surplus v = .ok {} := by
  simp only [Part.zeroPos, List.forall_mem_cons, List.not_mem_nil, false_imp_iff, implies_true, and_true]
  exact ⟨Pos.ofJson_toJson surplus {}, rfl⟩

theorem Follows.pos (F : Follows .pos room members members') (surplus : DecodeError) :
    Same (Pos.ofJson surplus) (.object members none) (.object members' none) := by
  intro p h
  obtain ⟨named, passed, line, column⟩ := Pos.ofJson_object_iff.1 h
  exact Pos.ofJson_object_iff.2 ⟨F.allNamed named, F.passesOver passed,
    F.gives rfl (by simp [Part.defaults]) (fun _ _ kept => kept.same_scalar) line,
    F.gives rfl (by simp [Part.defaults]) (fun _ _ kept => kept.same_scalar) column⟩

theorem Follows.limit (F : Follows .limit room members members') (surplus : DecodeError) :
    Same (Limit.ofJson surplus) (.object members none) (.object members' none) := by
  intro l h
  obtain ⟨named, passed, kind, value, lower, upper, close⟩ := Limit.ofJson_object_iff.1 h
  exact Limit.ofJson_object_iff.2 ⟨F.allNamed named, F.passesOver passed,
    F.gives rfl (by simp [Part.defaults]) (fun _ _ kept => kept.same_scalar) kind,
    F.gives rfl (by simp [Part.defaults]) (fun _ _ kept => kept.same_scalar) value,
    F.givesOr rfl (by simp [Part.defaults, Json.natural, decodeUInt64]) (fun _ _ kept => kept.same_scalar) lower,
    F.givesOr rfl (by simp [Part.defaults, Json.natural, decodeUInt64]) (fun _ _ kept => kept.same_scalar) upper,
    F.givesOr rfl (by simp [Part.defaults, decodeBool]) (fun _ _ kept => kept.same_scalar) close⟩

theorem Follows.field (F : Follows .field room members members') :
    Same Field.ofJson (.object members none) (.object members' none) := by
  intro f h
  obtain ⟨named, passed, name, type, pos⟩ := Field.ofJson_object_iff.1 h
  exact Field.ofJson_object_iff.2 ⟨F.allNamed named, F.passesOver passed,
    F.gives rfl (by simp [Part.defaults]) (fun _ _ kept => kept.same_scalar) name,
    F.gives rfl (by simp [Part.defaults]) (fun _ _ (kept : Kept .other _ _ _) => kept.reads.1) type,
    F.givesOr rfl (by simpa [Part.defaults] using zeroPos_decoded whileHeld)
      (fun _ _ (kept : Kept .pos _ _ _) => kept.reads whileHeld) pos⟩

theorem Follows.rule (F : Follows .rule room members members') :
    Same (Rule.ofJson room) (.object members none) (.object members' none) := by
  intro r h
  obtain ⟨named, passed, name, pos, actions⟩ := Rule.ofJson_object_iff.1 h
  exact Rule.ofJson_object_iff.2 ⟨F.allNamed named, F.passesOver passed,
    F.gives rfl (by simp [Part.defaults]) (fun _ _ kept => kept.same_scalar) name,
    F.givesOr rfl (by simpa [Part.defaults] using zeroPos_decoded whileReading)
      (fun _ _ (kept : Kept .pos _ _ _) => kept.reads whileReading) pos,
    F.givesOr rfl (by simp [Part.defaults, Json.list, decodeList, decodeItems])
      (fun _ _ (kept : Kept .actions _ _ _) => kept.reads whileReading) actions⟩

theorem Follows.ruleSet (F : Follows .ruleSet maxDepth members members') :
    Same RuleSet.ofJson (.object members none) (.object members' none) := by
  intro rs h
  obtain ⟨named, passed, rules⟩ := RuleSet.ofJson_object_iff.1 h
  exact RuleSet.ofJson_object_iff.2 ⟨F.allNamed named, F.passesOver passed,
    F.gives rfl (by simp [Part.defaults]) (fun _ _ (kept : Kept .rules _ _ _) => kept.reads) rules⟩

/-! ## Actions -/

theorem eq_nil_of_decodeList_error {α : Type} {e : DecodeError} {v : Json} {as : List α}
    (h : decodeList (fun _ => .error e) v = .ok as) : v = .array [] none := by
  cases v with
  | array items stop =>
    rcases items with _ | ⟨w, items⟩
    · rcases stop with _ | b
      · rfl
      · cases h
    · cases h
  | _ => cases h

theorem Kept.same_body {v v' : Json} (kept : Kept .actions room v v') : Same (Action.bodyDecoder room) v v' := by
  rcases room with _ | _ | room
  -- without a level for its actions a body is empty, and an empty array is not edited
  · exact fun _ h => absurd (eq_nil_of_decodeList_error h) kept.filled
  · exact fun _ h => absurd (eq_nil_of_decodeList_error h) kept.filled
  · exact kept.reads whileHeld

theorem lookup_slot {shape : Action.Shape} (known : Action.shape? members = some shape) :
    ∀ s ∈ shape.slots, (Part.action.fields members).lookup s.key = some s.part := by
  simp only [Part.fields, known]
  cases shape <;> simp [Action.Shape.slots, Action.Slot.key, Action.Slot.part, List.lookup_cons]

theorem Follows.givesSlot (F : Follows .action room members members') {shape : Action.Shape}
    (known : Action.shape? members = some shape) (s : Action.Slot) {β : Type} {decode : Json → Decoded β}
    (same : ∀ v v', Kept s.part (room - 1) v v' → Same decode v v') {o : Option β}
    (h : Action.GivesSlot shape s decode members o) : Action.GivesSlot shape s decode members' o := by
  unfold Action.GivesSlot at h ⊢
  split_ifs at h ⊢ with needed
  · refine F.gives (lookup_slot known s needed) ?_ same h
    cases s <;> simp [Part.defaults, Action.Slot.key]
  · exact h

theorem Follows.action (F : Follows .action room members members') (surplus : DecodeError) :
    Same (Action.ofJson (room - 1) surplus) (.object members none) (.object members' none) := by
  intro a h
  rw [Action.ofJson_eq] at h ⊢
  obtain ⟨named, held, pos, shape, m, hp, hs, given, done⟩ := Action.ofObject_object_iff.1 h
  -- what the members are read as depends on the kind, which is a scalar and so is never edited
  have known := Action.shape?_of_gives hs
  refine Action.ofObject_object_iff.2 ⟨F.allNamed named, ?_, pos, shape, m, ?_, ?_, ?_, done⟩
  · exact F.forall_values (P := (· ≠ .name "pos")) (fun _ _ _ kept => kept.holds) (fun _ => holdable_pred_of_fit) held
  · exact F.givesOr rfl (by simpa [Part.defaults] using zeroPos_decoded surplus)
      (fun _ _ (kept : Kept .pos _ _ _) => kept.reads surplus) hp
  · exact F.gives rfl (by simp [Part.defaults]) (fun _ _ kept => kept.same_scalar) hs
  · exact {
      name := F.givesSlot known .name (fun _ _ kept => kept.same_scalar) given.name
      actions := F.givesSlot known .body (fun _ _ kept => kept.same_body) given.actions
      char := F.givesSlot known .char (fun _ _ kept => kept.same_scalar) given.char
      string := F.givesSlot known .string (fun _ _ kept => kept.same_scalar) given.string
      count := F.givesSlot known .count (fun _ _ kept => kept.same_scalar) given.count
      field := F.givesSlot known .field (fun _ _ kept => kept.reads) given.field
      limit := F.givesSlot known .limit (fun _ _ kept => kept.reads whileHeld) given.limit }

end

/-! ## Records as arrays -/

namespace Stepwise

variable {part : Part} {room : Nat} {items items' : List Json}

theorem pos (h : Stepwise .pos room 0 items items') (surplus : DecodeError) :
    Same (Pos.ofJson surplus) (.array items none) (.array items' none) := by
  intro p hp
  simp only [Pos.ofJson, decodeRecord, bind_eq_ok_iff] at hp ⊢
  obtain ⟨⟨line, rest⟩, h₁, l, hl, ⟨column, rest₂⟩, h₂, c, hc, _, left, done⟩ := hp
  obtain ⟨rest', h₁', s₁⟩ := h.nextItem (fun _ _ kept => kept.same_scalar) h₁
  obtain ⟨rest₂', h₂', s₂⟩ := s₁.nextItem (fun _ _ kept => kept.same_scalar) h₂
  exact ⟨_, h₁', l, hl, _, h₂', c, hc, (), s₂.noneLeft left, done⟩

theorem limit (h : Stepwise .limit room 0 items items') (surplus : DecodeError) :
    Same (Limit.ofJson surplus) (.array items none) (.array items' none) := by
  intro l hl
  simp only [Limit.ofJson, decodeRecord, bind_eq_ok_iff] at hl ⊢
  obtain ⟨_, h₁, kind, hk, _, h₂, value, hv, _, h₃, _, h₄, _, h₅, _, left, done⟩ := hl
  obtain ⟨_, h₁', s₁⟩ := h.nextItem (fun _ _ kept => kept.same_scalar) h₁
  obtain ⟨_, h₂', s₂⟩ := s₁.nextItem (fun _ _ kept => kept.same_scalar) h₂
  obtain ⟨_, h₃', s₃⟩ := s₂.nextItem (fun _ _ kept => kept.same_scalar) h₃
  obtain ⟨_, h₄', s₄⟩ := s₃.nextItem (fun _ _ kept => kept.same_scalar) h₄
  obtain ⟨_, h₅', s₅⟩ := s₄.nextItem (fun _ _ kept => kept.same_scalar) h₅
  exact ⟨_, h₁', kind, hk, _, h₂', value, hv, _, h₃', _, h₄', _, h₅', (), s₅.noneLeft left, done⟩

theorem field (h : Stepwise .field room 0 items items') :
    Same Field.ofJson (.array items none) (.array items' none) := by
  intro f hf
  simp only [Field.ofJson, decodeRecord, bind_eq_ok_iff] at hf ⊢
  obtain ⟨_, h₁, name, hn, _, h₂, type, ht, _, h₃, _, left, done⟩ := hf
  obtain ⟨_, h₁', s₁⟩ := h.nextItem (fun _ _ kept => kept.same_scalar) h₁
  obtain ⟨_, h₂', s₂⟩ := s₁.nextItem (fun _ _ (kept : Kept .other _ _ _) => kept.reads.1) h₂
  obtain ⟨_, h₃', s₃⟩ := s₂.nextItem (fun _ _ (kept : Kept .pos _ _ _) => kept.reads whileHeld) h₃
  exact ⟨_, h₁', name, hn, _, h₂', type, ht, _, h₃', (), s₃.noneLeft left, done⟩

theorem rule (h : Stepwise .rule room 0 items items') :
    Same (Rule.ofJson room) (.array items none) (.array items' none) := by
  intro r hr
  simp only [Rule.ofJson, decodeRecord, bind_eq_ok_iff] at hr ⊢
  obtain ⟨_, h₁, name, hn, _, h₂, _, h₃, _, left, done⟩ := hr
  obtain ⟨_, h₁', s₁⟩ := h.nextItem (fun _ _ kept => kept.same_scalar) h₁
  obtain ⟨_, h₂', s₂⟩ := s₁.nextItem (fun _ _ (kept : Kept .pos _ _ _) => kept.reads whileReading) h₂
  obtain ⟨_, h₃', s₃⟩ := s₂.nextItem (fun _ _ (kept : Kept .actions _ _ _) => kept.reads whileReading) h₃
  exact ⟨_, h₁', name, hn, _, h₂', _, h₃', (), s₃.noneLeft left, done⟩

theorem ruleSet (h : Stepwise .ruleSet maxDepth 0 items items') :
    Same RuleSet.ofJson (.array items none) (.array items' none) := by
  intro rs hr
  simp only [RuleSet.ofJson, decodeRecord, bind_eq_ok_iff] at hr ⊢
  obtain ⟨_, h₁, rules, hl, _, left, done⟩ := hr
  obtain ⟨_, h₁', s₁⟩ := h.nextItem (fun _ _ (kept : Kept .rules _ _ _) => kept.reads) h₁
  exact ⟨_, h₁', rules, hl, (), s₁.noneLeft left, done⟩

/-- An array is read as before. -/
theorem reads (h : Stepwise part room 0 items items') : part.Reads room (.array items none) (.array items' none) := by
  cases part with
  | ruleSet => exact fun hr => by subst hr; exact h.ruleSet
  | rules => exact h.decodeList fun _ _ _ (kept : Kept .rule _ _ _) => kept.reads
  | rule => exact h.rule
  | actions => exact fun surplus => h.decodeList fun _ _ _ (kept : Kept .action _ _ _) => kept.reads surplus
  | action => exact fun surplus a ha => by rw [Action.ofJson_eq] at ha; cases ha
  | pos => exact h.pos
  | field => exact h.field
  | limit => exact h.limit
  | other =>
    constructor
    · intro t ht
      cases ht
    · intro hv
      cases hv

end Stepwise

/-! ## Edits keep what is read -/

section

variable {part : Part} {room : Nat} {members members' : List (Key × Json)} {v v' : Json}

/-- As an object, the type of a field is its name with nothing under it. -/
theorem eq_singleton_of_type {t : FieldType} (h : FieldType.ofJson (.object members none) = .ok t) :
    ∃ s v, members = [(.name s, v)] ∧ (v = .null ∨ v = .object [] none) := by
  unfold FieldType.ofJson at h
  split at h
  case h_1 heq => cases heq
  case h_2 s v heq =>
    cases heq
    obtain ⟨_, -, h⟩ := bind_eq_ok_iff.1 h
    refine ⟨s, v, rfl, ?_⟩
    split at h
    · exact .inl rfl
    · exact .inr rfl
    · cases h
  all_goals cases h

/-- Only the order of members can change where nothing is read. -/
theorem Relisted.reads_other (h : Relisted .other room members members') :
    Part.Reads room (.object members none) (.object members' none) .other := by
  cases h with
  | reordered perm =>
    constructor
    · intro t ht
      obtain ⟨s, w, rfl, -⟩ := eq_singleton_of_type ht
      rw [← perm.singleton_eq]
      exact ht
    · rintro ⟨⟩
      rw [← perm.nil_eq]
  | extended record => cases record
  | completed default => cases default

theorem Kept.reads_other {before after : List (Key × Json)} {key : Key} (kept : Kept .other (room - 1) v v') :
    Part.Reads room (.object (before ++ (key, v) :: after) none) (.object (before ++ (key, v') :: after) none)
      .other := by
  constructor
  · intro t ht
    obtain ⟨s, w, only, empty⟩ := eq_singleton_of_type ht
    obtain ⟨rfl, ⟨rfl, rfl⟩, rfl⟩ : before = [] ∧ (key = .name s ∧ v = w) ∧ after = [] := by
      simpa [List.append_eq_singleton_iff] using only
    rcases empty with rfl | rfl
    · exact absurd kept.deep (by simp [depth])
    · rwa [kept.reads.2 rfl]
  · intro h
    simp at h

theorem Follows.reads (F : Follows part room members members')
    (other : part = .other → Part.Reads room (.object members none) (.object members' none) .other) :
    part.Reads room (.object members none) (.object members' none) := by
  cases part with
  | ruleSet => exact fun hr => by subst hr; exact F.ruleSet
  | rules => exact fun _ h => by cases h
  | rule => exact F.rule
  | actions => exact fun _ _ h => by cases h
  | action => exact F.action
  | pos => exact F.pos
  | field => exact F.field
  | limit => exact F.limit
  | other => exact other rfl

/-- One edit. The induction is on the way from the value to the place of the edit. -/
theorem Edit.kept (h : Edit part room v v') : Kept part room v v' := by
  induction h with
  | members h =>
    have F := h.follows
    refine ⟨by simp [depth], by simp, F.skips, F.holds, F.reads ?_⟩
    rintro rfl
    exact h.reads_other
  | @member part room before after key v v' h ih =>
    have F := follows_of_kept ih
    refine ⟨by simp [depth], by simp, F.skips, F.holds, F.reads ?_⟩
    rintro rfl
    have inside : Part.other.member (before ++ (key, v) :: after) key = .other := by cases key <;> rfl
    rw [inside] at ih
    exact ih.reads_other
  | @item part room before after v v' h ih =>
    have S : Stepwise part room 0 (before ++ v :: after) (before ++ v' :: after) := .of_kept (by rwa [Nat.zero_add])
    exact ⟨by simp [depth], by simp, S.skips, S.holds, S.reads⟩

end

end Document

namespace RuleSet

theorem load_eq_ok_iff {path text : String} {rs : RuleSet} :
    load path (.ok text) = .ok rs ↔ ofJson (Json.read text).root = .ok rs ∧ (Json.read text).trailing = false := by
  simp only [load, ofText, ofDocument]
  rcases ofJson (Json.read text).root with e | rules
  · constructor
    · intro h
      cases h
    · rintro ⟨h, -⟩
      cases h
  · cases (Json.read text).trailing
    · show Except.ok rules = .ok rs ↔ Except.ok rules = .ok rs ∧ false = false
      simp
    · constructor
      · intro h
        cases h
      · rintro ⟨-, h⟩
        cases h

/-- Any number of edits. -/
theorem ofJson_edited {v v' : Json} (edits : Relation.ReflTransGen (Edit .ruleSet maxDepth) v v') :
    Same ofJson v v' := by
  induction edits with
  | refl => exact fun _ h => h
  | tail _ edit ih => exact fun rs h => edit.kept.reads rfl rs (ih rs h)

/-- A document that loads, and that is edited any number of times, loads to the same rule set. -/
theorem load_edited {path text text' : String} {rs : RuleSet} {v : Json} (loaded : load path (.ok text) = .ok rs)
    (edits : Relation.ReflTransGen (Edit .ruleSet maxDepth) (Json.read text).root v)
    (read : Json.read text' = { root := v }) : load path (.ok text') = .ok rs := by
  rw [load_eq_ok_iff] at loaded ⊢
  rw [read]
  exact ⟨ofJson_edited edits rs loaded.1, rfl⟩

/-- A document with one rule, which has one action. -/
def around (action : List (String × Json)) : Json :=
  .record [("rules", .list [.record [("name", .string "line"), ("actions", .list [.record action])]])]

/-- An area that skips up to a limit, with other members as given. -/
def area (others limit : List (String × Json)) : List (String × Json) :=
  ("kind", .string "anonymous_option") :: others ++ [("actions", .list [.record [
    ("kind", .string "pass_until"),
    ("limit", .record (("kind", .string "char") :: limit))]])]

/-- The area up to a comma, as short as it can be written. -/
def terse : List (String × Json) := area [] [("value", .string ",")]

/-- The same with its kind last, a member that areas of this kind do not have, and defaults spelled out. -/
def verbose : List (String × Json) :=
  (area [("pos", .list [.natural 0, .natural 0]), ("name", .list [.null])]
    [("upper", .natural 0), ("value", .string ",")]).reverse

/-- What both say. -/
def skipped : RuleSet where
  rules := [{ name := "line", actions := [.unnamed {} [.step {} (.passUntil { kind := .char, value := "," } false)]] }]

theorem plain_area {others limit : List (String × Json)} (ho : ∀ m ∈ others, Plain m.2) (hl : ∀ m ∈ limit, Plain m.2) :
    ∀ m ∈ area others limit, Plain m.2 := by
  have inside : Plain (.record (("kind", .string "char") :: limit)) := .record (by simpa [Plain.string] using hl)
  have skipping : Plain (.record [
      ("kind", .string "pass_until"), ("limit", .record (("kind", .string "char") :: limit))]) :=
    .record (by simp [Plain.string, inside])
  have body := Plain.list (List.forall_mem_singleton.2 skipping)
  unfold area
  simp only [List.cons_append, List.forall_mem_cons, List.forall_mem_append, List.not_mem_nil, false_imp_iff,
    implies_true, and_true]
  exact ⟨.string _, ho, body⟩

theorem plain_around {action : List (String × Json)} (h : ∀ m ∈ action, Plain m.2) : Plain (around action) := by
  have actions : Plain (.list [.record action]) := .list (List.forall_mem_singleton.2 (.record h))
  have rule : Plain (.record [("name", .string "line"), ("actions", .list [.record action])]) :=
    .record (by simp [Plain.string, actions])
  have rules := Plain.list (List.forall_mem_singleton.2 rule)
  exact .record (List.forall_mem_singleton.2 rules)

/-- An edit of the one action. -/
theorem edit_around {action action' : List (String × Json)}
    (h : Edit .action (maxDepth - 4) (.record action) (.record action')) :
    Edit .ruleSet maxDepth (around action) (around action') := by
  have rule : Edit .rule (maxDepth - 2) (.record [("name", .string "line"), ("actions", .list [.record action])])
      (.record [("name", .string "line"), ("actions", .list [.record action'])]) :=
    @Edit.member _ _ [_] [] (.name "actions") _ _ (@Edit.item _ _ [] [] _ _ h)
  exact @Edit.member _ _ [] [] (.name "rules") _ _ (@Edit.item _ _ [] [] _ _ rule)

theorem edits_verbose : Relation.ReflTransGen (Edit .ruleSet maxDepth) (around terse) (around verbose) := by
  have bound : Edit .action (maxDepth - 4) (.record terse)
      (.record (area [] [("upper", .natural 0), ("value", .string ",")])) := by
    refine @Edit.member _ _ [_] [] (.name "actions") _ _ (@Edit.item _ _ [] [] _ _ ?_)
    refine @Edit.member _ _ [_] [] (.name "limit") _ _ (@Edit.members .limit _ _ _ ?_)
    exact @Relisted.completed _ _ [_] [_] _ _ (by simp [Part.defaults]) (by simp) (by decide)
  have position (limit : List (String × Json)) : Edit .action (maxDepth - 4) (.record (area [] limit))
      (.record (area [("pos", .list [.natural 0, .natural 0])] limit)) :=
    .members (@Relisted.completed _ _ [_] [_] _ _ (by simp [Part.defaults, Part.zeroPos]) (by simp) (by decide))
  have unknown : Edit .action (maxDepth - 4)
      (.record (area [("pos", .list [.natural 0, .natural 0])] [("upper", .natural 0), ("value", .string ",")]))
      (.record verbose.reverse) :=
    .members (@Relisted.extended _ _ [_, _] [_] _ _ rfl (by decide +kernel) (.list (by simp [Fit.null])) (by decide))
  have order : Edit .action (maxDepth - 4) (.record verbose.reverse) (.record verbose) :=
    .members (.reordered (verbose.reverse_perm.map _))
  exact .tail (.tail (.tail (.single (edit_around bound)) (edit_around (position _))) (edit_around unknown))
    (edit_around order)

theorem load_edited_verbose :
    load "rules.json" (.ok (compact (around terse))) = .ok skipped ∧
      Relation.ReflTransGen (Edit .ruleSet maxDepth) (Json.read (compact (around terse))).root (around verbose) ∧
      load "rules.json" (.ok (compact (around verbose))) = .ok skipped := by
  have short : Json.read (compact (around terse)) = { root := around terse } :=
    read_compact (plain_around (plain_area (by simp) (by simp [Plain.string])))
  have members : ∀ m ∈ verbose, Plain m.2 := by
    intro m hm
    refine plain_area ?_ ?_ m (List.mem_reverse.1 hm)
    · simp [Plain.list, Plain.null, Plain.natural]
    · simp [Plain.string, Plain.natural]
  have loaded : load "rules.json" (.ok (compact (around terse))) = .ok skipped := by
    rw [load_eq_ok_iff, short]
    exact ⟨rfl, rfl⟩
  have edits : Relation.ReflTransGen (Edit .ruleSet maxDepth) (Json.read (compact (around terse))).root
      (around verbose) := by
    rw [short]
    exact edits_verbose
  exact ⟨loaded, edits, load_edited loaded edits (read_compact (plain_around members))⟩

end RuleSet

end LineRules
