/-
Edits of a document: the members of an object are put in another order, a record gets a member that is none of its
fields, or a default is spelled out. What may be added depends on what the place of the edit is read as, so every place
of a document has a `Part`, and on the nesting that is left there.

`Kept` is what is to be kept by an edit: a value that can be passed over or held still can, and it is still read as the
same. What the members of an edited object give (`Follows`), and the elements of an edited array one by one
(`Stepwise`), is worked out here for any part.
-/
import LineRules.Proofs.Document.Members
import Mathlib.Logic.Relation

namespace LineRules

open Document Json

/-! ## Parts -/

/-- What a place in a document is read as. -/
inductive Document.Part
  | ruleSet
  | rules
  | rule
  | actions
  | action
  | pos
  | field
  | limit
  /-- A scalar, the type of a field, or a value that is passed over. -/
  | other
  deriving DecidableEq

namespace Action

/-- What the member is read as. -/
def Slot.part : Slot → Part
  | .body => .actions
  | .field => .field
  | .limit => .limit
  | _ => .other

/-- The shape of an action with the given members. -/
def shape? (members : List (Key × Json)) : Option Shape :=
  match valuesOf "kind" members with
  | [v] => (decodeShape v).toOption
  | _ => none

theorem shape?_of_gives {members : List (Key × Json)} {shape : Shape}
    (h : Gives "kind" decodeShape members (some shape)) : shape? members = some shape := by
  obtain ⟨v, only, decoded⟩ := h
  rw [shape?, only]
  show (decodeShape v).toOption = some shape
  rw [decoded]
  rfl

end Action

namespace Document

namespace Part

/-- The fields of a record. Those of an action depend on its kind. -/
def fields : Part → List (Key × Json) → List (String × Part)
  | ruleSet, _ => [("rules", rules)]
  | rule, _ => [("name", other), ("pos", pos), ("actions", actions)]
  | action, members =>
    ("pos", pos) :: ("kind", other) ::
      match Action.shape? members with
      | some shape => shape.slots.map fun s => (s.key, s.part)
      | none => []
  | pos, _ => [("line", other), ("column", other)]
  | field, _ => [("name", other), ("type", other), ("pos", pos)]
  | limit, _ => [("kind", other), ("value", other), ("lower", other), ("upper", other), ("close", other)]
  | _, _ => []

/-- What a member of an object is read as. -/
def member (part : Part) (members : List (Key × Json)) : Key → Part
  | .name name => ((part.fields members).lookup name).getD other
  | .unfit => other

/-- What an element of an array is read as. A record may be the array of its fields. -/
def item : Part → Nat → Part
  | ruleSet, 0 => rules
  | rules, _ => rule
  | rule, 1 => pos
  | rule, 2 => actions
  | actions, _ => action
  | field, 2 => pos
  | _, _ => other

/-- The parts that are records: members that are none of their fields are passed over. -/
def isRecord : Part → Bool
  | ruleSet | rule | action | pos | field | limit => true
  | _ => false

/-- The position 0:0, as an object and as an array. -/
def zeroPos : List Json := [({} : Pos).toJson, .list [.natural 0, .natural 0]]

/-- The fields that may be left out, with their defaults. -/
def defaults : Part → List (String × Json)
  | rule => ("actions", .list []) :: zeroPos.map ("pos", ·)
  | action => zeroPos.map ("pos", ·)
  | field => zeroPos.map ("pos", ·)
  | limit => [("lower", .natural 0), ("upper", .natural 0), ("close", .bool false)]
  | _ => []

theorem fit_of_mem_defaults {part : Part} : ∀ m ∈ part.defaults, Fit m.2 := by
  have natural (n : UInt64) : Fit (.natural n) := .number _
  have zero : Fit (.list [.natural 0, .natural 0]) := .list (by simp [natural])
  have origin : Fit ({} : Pos).toJson := (Pos.plain_toJson {}).fit
  have empty : Fit (.list []) := .list (by simp)
  cases part <;> simp [defaults, zeroPos, natural, zero, origin, empty, Fit.bool]

end Part

/-! ## Edits -/

/-- The members of an object are put in another order, or one is added: in a record, a member that is none of its
fields, or a field that is left out, with its default. The object and what is in it may be nested `room` deep. -/
inductive Relisted (part : Part) (room : Nat) : List (Key × Json) → List (Key × Json) → Prop
  | reordered {members members' : List (Key × Json)} (perm : members.Perm members') :
      Relisted part room members members'
  | extended {before after : List (Key × Json)} {key : String} {v : Json} (record : part.isRecord = true)
      (unknown : key ∉ (part.fields (before ++ after)).map (·.1)) (fit : Fit v) (shallow : v.depth < room) :
      Relisted part room (before ++ after) (before ++ (.name key, v) :: after)
  | completed {before after : List (Key × Json)} {key : String} {v : Json} (default : (key, v) ∈ part.defaults)
      (absent : ∀ m ∈ before ++ after, m.1 ≠ .name key) (shallow : v.depth < room) :
      Relisted part room (before ++ after) (before ++ (.name key, v) :: after)

/-- One edit of a value that is read as `part` and may be nested `room` deep: of its own members, or inside a member or
an element. -/
inductive Edit : Part → Nat → Json → Json → Prop
  | members {part : Part} {room : Nat} {members members' : List (Key × Json)}
      (h : Relisted part room members members') : Edit part room (.object members none) (.object members' none)
  | member {part : Part} {room : Nat} {before after : List (Key × Json)} {key : Key} {v v' : Json}
      (h : Edit (part.member (before ++ (key, v) :: after) key) (room - 1) v v') :
      Edit part room (.object (before ++ (key, v) :: after) none) (.object (before ++ (key, v') :: after) none)
  | item {part : Part} {room : Nat} {before after : List Json} {v v' : Json}
      (h : Edit (part.item before.length) (room - 1) v v') :
      Edit part room (.array (before ++ v :: after) none) (.array (before ++ v' :: after) none)

/-! ## What an edit keeps -/

/-- What one value is decoded to, the other is decoded to. -/
def Same {β : Type} (decode : Json → Decoded β) (v v' : Json) : Prop := ∀ b, decode v = .ok b → decode v' = .ok b

/-- Two values are read as the same. The error for an element too many plays no part here. Of the places that are
`other`, only the type of a field can hold an object, and there is nothing under it. -/
def Part.Reads (room : Nat) (v v' : Json) : Part → Prop
  | ruleSet => room = maxDepth → Same RuleSet.ofJson v v'
  | rules => Same (decodeList (Rule.ofJson (room - 1))) v v'
  | rule => Same (Rule.ofJson room) v v'
  | actions => ∀ surplus, Same (decodeList (Action.ofJson (room - 2) surplus)) v v'
  | action => ∀ surplus, Same (Action.ofJson (room - 1) surplus) v v'
  | pos => ∀ surplus, Same (Pos.ofJson surplus) v v'
  | field => Same Field.ofJson v v'
  | limit => ∀ surplus, Same (Limit.ofJson surplus) v v'
  | other => Same FieldType.ofJson v v' ∧ (v = .object [] none → v' = v)

/-- What an edit keeps. It takes place in an array that is not empty or in an object, so nothing else is edited. -/
structure Kept (part : Part) (room : Nat) (v v' : Json) : Prop where
  deep : 0 < v.depth
  filled : v ≠ .array [] none
  skips : skip v = .ok () → skip v' = .ok ()
  holds : holdable room v = .ok () → holdable room v' = .ok ()
  reads : part.Reads room v v'

/-- A decoder that takes neither arrays nor objects. -/
class Scalar {β : Type} (decode : Json → Decoded β) : Prop where
  array : ∀ items stop, decode (.array items stop) = .error (.shape .invalidType)
  object : ∀ members stop, decode (.object members stop) = .error (.shape .invalidType)

instance : Scalar decodeString := ⟨fun _ _ => rfl, fun _ _ => rfl⟩
instance : Scalar decodeBool := ⟨fun _ _ => rfl, fun _ _ => rfl⟩
instance : Scalar decodeChar := ⟨fun _ _ => rfl, fun _ _ => rfl⟩
instance : Scalar decodeUInt64 := ⟨fun _ _ => rfl, fun _ _ => rfl⟩
instance : Scalar decodeUInt32 := ⟨fun _ _ => rfl, fun _ _ => rfl⟩
instance : Scalar Limit.decodeKind := ⟨fun _ _ => rfl, fun _ _ => rfl⟩
instance : Scalar Action.decodeShape := ⟨fun _ _ => rfl, fun _ _ => rfl⟩

theorem Kept.same_scalar {β : Type} {decode : Json → Decoded β} [Scalar decode] {part : Part} {room : Nat} {v v' : Json}
    (kept : Kept part room v v') : Same decode v v' := by
  intro b hb
  have deep := kept.deep
  cases v with
  | array items stop => cases (Scalar.array items stop).symm.trans hb
  | object members stop => cases (Scalar.object members stop).symm.trans hb
  | _ => simp [depth] at deep

/-! ## Values that are passed over or held -/

section

variable {items : List Json} {members : List (Key × Json)} {room : Nat}

theorem skip_array_iff : skip (.array items none) = .ok () ↔ ∀ v ∈ items, skip v = .ok () := by
  rw [skip]
  induction items with
  | nil => simp [skipItems]
  | cons v items ih =>
    rw [skipItems, seq_eq_ok_iff, List.forall_mem_cons, ih]

theorem skip_object_iff : skip (.object members none) = .ok () ↔ ∀ m ∈ members, skip m.2 = .ok () := by
  rw [skip]
  induction members with
  | nil => simp [skipMembers]
  | cons m members ih =>
    rw [skipMembers, seq_eq_ok_iff, List.forall_mem_cons, ih]

theorem skip_of_fit {v : Json} (h : Fit v) : skip v = .ok () := by
  induction h with
  | list fit ih => exact skip_array_iff.2 ih
  | record fit ih => exact skip_object_iff.2 (List.forall_mem_map.2 ih)
  | _ => rfl

theorem holdable_pred_of_fit {v : Json} (fit : Fit v) (shallow : v.depth < room) : holdable (room - 1) v = .ok () :=
  holdable_of_fit fit (Nat.le_sub_one_of_lt shallow)

theorem holdable_array_iff :
    holdable room (.array items none) = .ok () ↔ 0 < room ∧ ∀ v ∈ items, holdable (room - 1) v = .ok () := by
  cases room with
  | zero => simp [holdable]
  | succ room =>
    rw [holdable, Nat.add_sub_cancel]
    induction items with
    | nil => simp [holdableItems]
    | cons v items ih =>
      rw [holdableItems, seq_eq_ok_iff, List.forall_mem_cons, ih]
      tauto

theorem holdable_object_iff :
    holdable room (.object members none) = .ok () ↔
      0 < room ∧ AllNamed members ∧ ∀ m ∈ members, holdable (room - 1) m.2 = .ok () := by
  cases room with
  | zero => simp [holdable]
  | succ room =>
    rw [holdable, Nat.add_sub_cancel]
    induction members with
    | nil => simp [holdableMembers, AllNamed]
    | cons m members ih =>
      obtain ⟨key, v⟩ := m
      unfold AllNamed at ih ⊢
      rw [List.forall_mem_cons, List.forall_mem_cons]
      cases key with
      | unfit => simp [holdableMembers]
      | name key =>
        rw [holdableMembers, seq_eq_ok_iff, ih]
        simp only [ne_eq, reduceCtorEq, not_false_eq_true, true_and]
        tauto

end

/-! ## Members -/

section

variable {part : Part} {room : Nat} {members members' : List (Key × Json)}

theorem valuesOf_middle (name : String) (before after : List (Key × Json)) (key : Key) (v : Json) :
    valuesOf name (before ++ (key, v) :: after) =
      if key = .name name then valuesOf name before ++ v :: valuesOf name after
      else valuesOf name (before ++ after) := by
  split_ifs with h <;> simp [valuesOf, h]

theorem valuesOf_insert {name key : String} {before after : List (Key × Json)} {v : Json} (h : key ≠ name) :
    valuesOf name (before ++ (.name key, v) :: after) = valuesOf name (before ++ after) := by
  rw [valuesOf_middle, if_neg]
  rintro ⟨⟩
  exact h rfl

theorem valuesOf_eq_nil_iff {name : String} : valuesOf name members = [] ↔ ∀ m ∈ members, m.1 ≠ .name name := by
  simp [valuesOf]

theorem mem_names_of_lookup {fields : List (String × Part)} {name : String} {p : Part}
    (h : fields.lookup name = some p) : name ∈ fields.map (·.1) := by
  obtain ⟨l₁, l₂, rfl, -⟩ := List.lookup_eq_some_iff.1 h
  simp

/-- A member that was there before, but for edits inside, or a new one without a fault. -/
def Origin (part : Part) (room : Nat) (members : List (Key × Json)) (m' : Key × Json) : Prop :=
  (∃ m ∈ members, m'.1 = m.1 ∧ (m'.2 = m.2 ∨ Kept (part.member members m.1) (room - 1) m.2 m'.2)) ∨
    (m'.1 ≠ .unfit ∧ Fit m'.2 ∧ m'.2.depth < room)

theorem origin_of_mem {m : Key × Json} (h : m ∈ members) : Origin part room members m := .inl ⟨m, h, rfl, .inl rfl⟩

theorem origin_insert {before after : List (Key × Json)} {key : String} {v : Json} (fit : Fit v)
    (shallow : v.depth < room) : ∀ m ∈ before ++ (.name key, v) :: after, Origin part room (before ++ after) m := by
  intro m hm
  rcases List.mem_append.1 hm with hm | hm
  · exact origin_of_mem (List.mem_append_left _ hm)
  · rcases List.mem_cons.1 hm with rfl | hm
    · exact .inr ⟨by simp, fit, shallow⟩
    · exact origin_of_mem (List.mem_append_right _ hm)

/-- What the members of an object become: a field that is left out stays so or gets its default, and one that is given
once is given once. -/
structure Follows (part : Part) (room : Nat) (members members' : List (Key × Json)) : Prop where
  absent : ∀ name p, (part.fields members).lookup name = some p → valuesOf name members = [] →
    valuesOf name members' = [] ∨ ∃ v, (name, v) ∈ part.defaults ∧ valuesOf name members' = [v]
  present : ∀ name p, (part.fields members).lookup name = some p → ∀ v, valuesOf name members = [v] →
    ∃ v', valuesOf name members' = [v'] ∧ (v' = v ∨ Kept p (room - 1) v v')
  origin : ∀ m ∈ members', Origin part room members m

theorem Relisted.follows (h : Relisted part room members members') : Follows part room members members' := by
  cases h with
  | reordered perm =>
    have values (name : String) : (valuesOf name members).Perm (valuesOf name members') := (perm.filter _).map _
    refine ⟨fun name _ _ h => .inl ?_, fun name _ _ v h => ⟨v, ?_, .inl rfl⟩, ?_⟩
    · exact (h ▸ values name).nil_eq.symm
    · exact (h ▸ values name).singleton_eq.symm
    · exact fun m hm => origin_of_mem (perm.mem_iff.2 hm)
  | @extended before after key v record unknown fit shallow =>
    have values {name : String} {p : Part} (field : (part.fields (before ++ after)).lookup name = some p) :
        valuesOf name (before ++ (.name key, v) :: after) = valuesOf name (before ++ after) := by
      refine valuesOf_insert ?_
      rintro rfl
      exact unknown (mem_names_of_lookup field)
    refine ⟨fun name _ field h => .inl ?_, fun name _ field w h => ⟨w, ?_, .inl rfl⟩, origin_insert fit shallow⟩
    · exact (values field).trans h
    · exact (values field).trans h
  | @completed before after key v default absent shallow =>
    have missing : valuesOf key (before ++ after) = [] := valuesOf_eq_nil_iff.2 absent
    refine ⟨fun name _ _ h => ?_, fun name _ _ w h => ?_, origin_insert (Part.fit_of_mem_defaults _ default) shallow⟩
    · by_cases hk : key = name
      · subst hk
        refine .inr ⟨v, default, ?_⟩
        rw [valuesOf_append, List.append_eq_nil_iff] at missing
        rw [valuesOf_middle, if_pos rfl, missing.1, missing.2]
        rfl
      · exact .inl ((valuesOf_insert hk).trans h)
    · by_cases hk : key = name
      · rw [← hk, missing] at h
        cases h
      · exact ⟨w, (valuesOf_insert hk).trans h, .inl rfl⟩

/-- A member is edited inside. -/
theorem follows_of_kept {before after : List (Key × Json)} {key : Key} {v v' : Json}
    (kept : Kept (part.member (before ++ (key, v) :: after) key) (room - 1) v v') :
    Follows part room (before ++ (key, v) :: after) (before ++ (key, v') :: after) := by
  constructor
  · intro name p field h
    rw [valuesOf_middle] at h ⊢
    split_ifs at h ⊢
    · simp at h
    · exact .inl h
  · intro name p field w h
    rw [valuesOf_middle] at h ⊢
    split_ifs at h ⊢ with hk
    · obtain ⟨first, rfl, last⟩ : valuesOf name before = [] ∧ v = w ∧ valuesOf name after = [] := by
        simpa [List.append_eq_singleton_iff] using h
      subst hk
      refine ⟨v', by rw [first, last]; rfl, .inr ?_⟩
      rw [Part.member, field] at kept
      exact kept
    · exact ⟨w, h, .inl rfl⟩
  · intro m hm
    rcases List.mem_append.1 hm with hm | hm
    · exact origin_of_mem (List.mem_append_left _ hm)
    · rcases List.mem_cons.1 hm with rfl | hm
      · exact .inl ⟨(key, v), by simp, rfl, .inr kept⟩
      · exact origin_of_mem (List.mem_append_right _ (List.mem_cons_of_mem _ hm))

namespace Follows

theorem allNamed (F : Follows part room members members') (h : AllNamed members) : AllNamed members' := by
  intro m' hm
  rcases F.origin m' hm with ⟨m, old, key, -⟩ | ⟨fit, -⟩
  · exact key ▸ h m old
  · exact fit

/-- What holds of the values of some members, by their names, holds of them afterwards. -/
theorem forall_values (F : Follows part room members members') {P : Key → Prop} {Q : Json → Prop}
    (kept : ∀ p v v', Kept p (room - 1) v v' → Q v → Q v') (fit : ∀ v, Fit v → v.depth < room → Q v)
    (h : ∀ m ∈ members, P m.1 → Q m.2) : ∀ m ∈ members', P m.1 → Q m.2 := by
  intro m' hm hp
  rcases F.origin m' hm with ⟨m, old, key, same | edited⟩ | ⟨-, new, shallow⟩
  · exact same ▸ h m old (key ▸ hp)
  · exact kept _ _ _ edited (h m old (key ▸ hp))
  · exact fit _ new shallow

theorem passesOver (F : Follows part room members members') {names : List String} (h : PassesOver names members) :
    PassesOver names members' :=
  F.forall_values (P := fun key => ∀ name ∈ names, key ≠ .name name) (fun _ _ _ kept => kept.skips)
    (fun _ fit _ => skip_of_fit fit) h

theorem skips (F : Follows part room members members') (h : skip (.object members none) = .ok ()) :
    skip (.object members' none) = .ok () := by
  rw [skip_object_iff] at h ⊢
  intro m hm
  exact F.forall_values (P := fun _ => True) (fun _ _ _ kept => kept.skips) (fun _ fit _ => skip_of_fit fit)
    (fun m hm _ => h m hm) m hm trivial

theorem holds (F : Follows part room members members') (h : holdable room (.object members none) = .ok ()) :
    holdable room (.object members' none) = .ok () := by
  rw [holdable_object_iff] at h ⊢
  obtain ⟨levels, named, held⟩ := h
  refine ⟨levels, F.allNamed named, fun m hm => ?_⟩
  exact F.forall_values (P := fun _ => True) (fun _ _ _ kept => kept.holds) (fun _ => holdable_pred_of_fit)
    (fun m hm _ => held m hm) m hm trivial

variable {β : Type} {decode : Json → Decoded β} {name : String} {p : Part}

/-- A field that has no default is given as before. -/
theorem gives (F : Follows part room members members') (field : (part.fields members).lookup name = some p)
    (required : ∀ v, (name, v) ∉ part.defaults) (same : ∀ v v', Kept p (room - 1) v v' → Same decode v v')
    {o : Option β} (h : Gives name decode members o) : Gives name decode members' o := by
  cases o with
  | none =>
    rcases F.absent name p field h with missing | ⟨v, default, -⟩
    · exact missing
    · exact absurd default (required v)
  | some b =>
    obtain ⟨v, only, decoded⟩ := h
    obtain ⟨v', only', rfl | kept⟩ := F.present name p field v only
    · exact ⟨_, only', decoded⟩
    · exact ⟨v', only', same v v' kept b decoded⟩

/-- A field that may be left out comes to the same. -/
theorem givesOr (F : Follows part room members members') (field : (part.fields members).lookup name = some p)
    {default : β} (spelled : ∀ v, (name, v) ∈ part.defaults → decode v = .ok default)
    (same : ∀ v v', Kept p (room - 1) v v' → Same decode v v') {b : β} (h : GivesOr name decode default members b) :
    GivesOr name decode default members' b := by
  obtain ⟨o, h, rfl⟩ := h
  cases o with
  | none =>
    rcases F.absent name p field h with missing | ⟨v, written, only⟩
    · exact ⟨none, missing, rfl⟩
    · exact ⟨some default, ⟨v, only, spelled v written⟩, rfl⟩
  | some b =>
    obtain ⟨v, only, decoded⟩ := h
    obtain ⟨v', only', rfl | kept⟩ := F.present name p field v only
    · exact ⟨some b, ⟨_, only', decoded⟩, rfl⟩
    · exact ⟨some b, ⟨v', only', same v v' kept b decoded⟩, rfl⟩

end Follows

end

/-! ## Elements -/

section

variable {part : Part} {room i : Nat} {items items' : List Json}

/-- Two arrays agree element by element, but for what edits keep. The first element stands at `i`. -/
inductive Stepwise (part : Part) (room : Nat) : Nat → List Json → List Json → Prop
  | nil {i : Nat} : Stepwise part room i [] []
  | cons {i : Nat} {v v' : Json} {rest rest' : List Json} (first : v' = v ∨ Kept (part.item i) (room - 1) v v')
      (others : Stepwise part room (i + 1) rest rest') : Stepwise part room i (v :: rest) (v' :: rest')

namespace Stepwise

theorem refl (i : Nat) (items : List Json) : Stepwise part room i items items := by
  induction items generalizing i with
  | nil => exact .nil
  | cons v items ih => exact .cons (.inl rfl) (ih (i + 1))

/-- An element is edited inside. -/
theorem of_kept {before after : List Json} {v v' : Json} (kept : Kept (part.item (i + before.length)) (room - 1) v v') :
    Stepwise part room i (before ++ v :: after) (before ++ v' :: after) := by
  induction before generalizing i with
  | nil => exact .cons (.inr kept) (refl _ after)
  | cons w before ih =>
    refine .cons (.inl rfl) (ih ?_)
    rw [List.length_cons] at kept
    rwa [Nat.add_right_comm]

theorem forall_items (h : Stepwise part room i items items') {Q : Json → Prop}
    (kept : ∀ p v v', Kept p (room - 1) v v' → Q v → Q v') (hq : ∀ v ∈ items, Q v) : ∀ v ∈ items', Q v := by
  induction h with
  | nil => exact hq
  | cons first others ih =>
    obtain ⟨head, tail⟩ := List.forall_mem_cons.1 hq
    refine List.forall_mem_cons.2 ⟨?_, ih tail⟩
    rcases first with rfl | edited
    · exact head
    · exact kept _ _ _ edited head

theorem skips (h : Stepwise part room i items items') (hs : skip (.array items none) = .ok ()) :
    skip (.array items' none) = .ok () := by
  rw [skip_array_iff] at hs ⊢
  exact h.forall_items (fun _ _ _ kept => kept.skips) hs

theorem holds (h : Stepwise part room i items items') (hh : holdable room (.array items none) = .ok ()) :
    holdable room (.array items' none) = .ok () := by
  rw [holdable_array_iff] at hh ⊢
  exact ⟨hh.1, h.forall_items (fun _ _ _ kept => kept.holds) hh.2⟩

variable {β : Type} {decode : Json → Decoded β}

theorem decodeList (h : Stepwise part room i items items')
    (same : ∀ i v v', Kept (part.item i) (room - 1) v v' → Same decode v v') :
    Same (decodeList decode) (.array items none) (.array items' none) := by
  intro bs hb
  show decodeItems decode items' none = .ok bs
  replace hb : decodeItems decode items none = .ok bs := hb
  induction h generalizing bs with
  | nil => exact hb
  | cons first others ih =>
    simp only [decodeItems, bind_eq_ok_iff] at hb ⊢
    obtain ⟨b, hv, rest, hr, done⟩ := hb
    refine ⟨b, ?_, rest, ih rest hr, done⟩
    rcases first with rfl | edited
    · exact hv
    · exact same _ _ _ edited b hv

theorem nextItem (h : Stepwise part room i items items')
    (same : ∀ v v', Kept (part.item i) (room - 1) v v' → Same decode v v') {o : Option β} {rest : List Json}
    (hn : nextItem decode items none = .ok (o, rest)) :
    ∃ rest', nextItem decode items' none = .ok (o, rest') ∧ Stepwise part room (i + 1) rest rest' := by
  cases h with
  | nil =>
    cases hn
    exact ⟨[], rfl, .nil⟩
  | @cons _ v v' tail tail' first others =>
    simp only [Document.nextItem, bind_eq_ok_iff, pure_eq_ok_iff, Prod.mk.injEq] at hn ⊢
    obtain ⟨b, hv, rfl, rfl⟩ := hn
    refine ⟨tail', ⟨b, ?_, rfl, rfl⟩, others⟩
    rcases first with rfl | edited
    · exact hv
    · exact same _ _ edited b hv

theorem noneLeft (h : Stepwise part room i items items') {surplus : DecodeError}
    (hn : noneLeft surplus items none = .ok ()) : noneLeft surplus items' none = .ok () := by
  cases h with
  | nil => exact hn
  | cons first others => cases hn

end Stepwise

end

end Document

end LineRules
