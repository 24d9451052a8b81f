/-
What the members of an object say, in whatever order they stand. The decoders take the members of an object one after
another and keep what they have read. What they end with is stated without an order: of each field the members give
nothing, or one value that decodes to it, and whatever else there is can be passed over. There is one such statement for
each record; an action is decoded from the members that its kind needs, once all of them can be held.
-/
import LineRules.Proofs.Document.RoundTrip
import Mathlib.Data.List.Induction

namespace LineRules

open Document Json

namespace Document

variable {α β : Type}

@[grind =]
theorem bind_eq_ok_iff {x : Decoded α} {f : α → Decoded β} {b : β} :
    x >>= f = .ok b ↔ ∃ a, x = .ok a ∧ f a = .ok b := by
  cases x with
  | error e =>
    constructor
    · intro h
      cases h
    · rintro ⟨_, h, -⟩
      cases h
  | ok a =>
    constructor
    · intro h
      exact ⟨a, rfl, h⟩
    · rintro ⟨_, h, hf⟩
      cases h
      exact hf

theorem seq_eq_ok_iff {x : Decoded Unit} {y : Decoded β} {b : β} :
    (x >>= fun _ => y) = .ok b ↔ x = .ok () ∧ y = .ok b := by
  rw [bind_eq_ok_iff]
  exact ⟨fun ⟨_, h⟩ => h, fun h => ⟨(), h⟩⟩

@[grind =]
theorem pure_eq_ok_iff {a b : α} : (pure a : Decoded α) = .ok b ↔ a = b := by
  show Except.ok a = .ok b ↔ a = b
  rw [Except.ok.injEq]

@[grind =]
theorem given_eq_ok_iff {name : String} {o : Option β} {b : β} : given name o = .ok b ↔ o = some b := by
  cases o <;> simp [given]

/-! ## Members of one name -/

/-- The values of the members with a given name. -/
def valuesOf (name : String) (members : List (Key × Json)) : List Json :=
  (members.filter (·.1 = .name name)).map (·.2)

theorem valuesOf_append (name : String) (xs ys : List (Key × Json)) :
    valuesOf name (xs ++ ys) = valuesOf name xs ++ valuesOf name ys := by
  simp [valuesOf]

/-- Of a field the members say nothing, or once a value that decodes to it. -/
def Gives (name : String) (decode : Json → Decoded β) (members : List (Key × Json)) : Option β → Prop
  | none => valuesOf name members = []
  | some b => ∃ v, valuesOf name members = [v] ∧ decode v = .ok b

/-- Of a field that may be left out the members say nothing, or once what it is. -/
def GivesOr (name : String) (decode : Json → Decoded β) (default : β) (members : List (Key × Json)) (b : β) : Prop :=
  ∃ o, Gives name decode members o ∧ o.getD default = b

/-- All members have names. -/
def AllNamed (members : List (Key × Json)) : Prop := ∀ m ∈ members, m.1 ≠ .unfit

/-- The members that are no fields can be passed over. -/
def PassesOver (names : List String) (members : List (Key × Json)) : Prop :=
  ∀ m ∈ members, (∀ name ∈ names, m.1 ≠ .name name) → skip m.2 = .ok ()

/-! ## One more member -/

/-- What is known of one field after a member. -/
def slot (name : String) (decode : Json → Decoded β) (before : Option β) (key : String) (v : Json) :
    Decoded (Option β) :=
  if key = name then once key before (decode v) else .ok before

theorem gives_nil {name : String} {decode : Json → Decoded β} {o : Option β} : Gives name decode [] o ↔ o = none := by
  cases o <;> simp [Gives, valuesOf]

theorem gives_snoc {name : String} {decode : Json → Decoded β} {members : List (Key × Json)} {key : String} {v : Json}
    {after : Option β} :
    Gives name decode (members ++ [(.name key, v)]) after ↔
      ∃ before, Gives name decode members before ∧ slot name decode before key v = .ok after := by
  have one : valuesOf name (members ++ [(.name key, v)]) =
      if key = name then valuesOf name members ++ [v] else valuesOf name members := by
    rw [valuesOf_append]
    by_cases h : key = name <;> simp [valuesOf, h]
  by_cases h : key = name
  · rw [if_pos h] at one
    unfold slot
    simp only [if_pos h, once]
    constructor
    · intro given
      cases after with
      | none => rw [Gives, one] at given; simp at given
      | some b =>
        obtain ⟨w, only, decoded⟩ := given
        obtain ⟨nothing, rfl⟩ : valuesOf name members = [] ∧ v = w := by
          simpa [one, List.append_eq_singleton_iff] using only
        refine ⟨none, nothing, ?_⟩
        rw [decoded]
        rfl
    · rintro ⟨before, given, added⟩
      cases before with
      | some b => cases added
      | none =>
        rcases hv : decode v with e | b
        · rw [hv] at added; cases added
        · rw [hv] at added
          cases added
          exact ⟨v, by rw [one, (given : valuesOf name members = [])]; rfl, hv⟩
  · rw [if_neg h] at one
    unfold slot
    simp only [if_neg h, Except.ok.injEq, exists_eq_right]
    cases after <;> simp only [Gives, one]

theorem passesOver_snoc {names : List String} {members : List (Key × Json)} {key : String} {v : Json} :
    PassesOver names (members ++ [(.name key, v)]) ↔
      PassesOver names members ∧ (key ∉ names → skip v = .ok ()) := by
  unfold PassesOver
  rw [List.forall_mem_append, List.forall_mem_singleton]
  simp only [ne_eq, Key.name.injEq]
  refine and_congr_right fun _ => imp_congr_left ?_
  exact ⟨fun h hk => h key hk rfl, fun h name hn hk => h (hk ▸ hn)⟩

theorem decodeMembers_append (add : α → String → Json → Decoded α) (a : α) (xs ys : List (Key × Json)) :
    decodeMembers add a (xs ++ ys) none = decodeMembers add a xs none >>= fun b => decodeMembers add b ys none := by
  induction xs generalizing a with
  | nil => rfl
  | cons m xs ih =>
    obtain ⟨key, v⟩ := m
    cases key with
    | unfit => rfl
    | name key =>
      simp only [List.cons_append, decodeMembers]
      rcases add a key v with e | b
      · rfl
      · exact ih b

/-- What the members of an object come to is known, once it is known for no member and for one member more. -/
theorem decodeMembers_eq_ok_iff (add : α → String → Json → Decoded α) (init : α)
    (gives : List (Key × Json) → α → Prop) (nil : ∀ a, gives [] a ↔ a = init)
    (snoc : ∀ members key v b, gives (members ++ [(.name key, v)]) b ↔ ∃ a, gives members a ∧ add a key v = .ok b)
    (members : List (Key × Json)) (b : α) :
    decodeMembers add init members none = .ok b ↔ AllNamed members ∧ gives members b := by
  induction members using List.reverseRecOn generalizing b with
  | nil =>
    rw [nil]
    exact ⟨fun h => ⟨by simp [AllNamed], by cases h; rfl⟩, fun ⟨_, h⟩ => by rw [h]; rfl⟩
  | append_singleton members m ih =>
    obtain ⟨key, v⟩ := m
    rw [decodeMembers_append, bind_eq_ok_iff]
    cases key with
    | unfit =>
      constructor
      · rintro ⟨a, -, h⟩
        cases h
      · rintro ⟨named, -⟩
        exact absurd rfl (named (.unfit, v) (by simp))
    | name key =>
      rw [snoc]
      have last : ∀ a, decodeMembers add a [(.name key, v)] none = .ok b ↔ add a key v = .ok b := by
        intro a
        simp only [decodeMembers]
        rcases add a key v with e | c <;> rfl
      have named : AllNamed (members ++ [(.name key, v)]) ↔ AllNamed members := by
        unfold AllNamed
        rw [List.forall_mem_append, List.forall_mem_singleton]
        simp
      simp only [ih, last, named, and_assoc, exists_and_left]

end Document

/-! ## Records -/

namespace Pos

/-- The names of a position's members. -/
def fieldNames : List String := ["line", "column"]

theorem addMember_eq_ok_iff {m m' : Members} {key : String} {v : Json} :
    addMember m key v = .ok m' ↔ (key ∉ fieldNames → skip v = .ok ()) ∧
      slot "line" decodeUInt32 m.line key v = .ok m'.line ∧
      slot "column" decodeUInt32 m.column key v = .ok m'.column := by
  obtain ⟨line, column⟩ := m
  obtain ⟨line', column'⟩ := m'
  unfold addMember slot fieldNames
  split_ifs <;> grind

theorem ofJson_object_iff {surplus : DecodeError} {members : List (Key × Json)} {p : Pos} :
    ofJson surplus (.object members none) = .ok p ↔ AllNamed members ∧ PassesOver fieldNames members ∧
      Gives "line" decodeUInt32 members (some p.line) ∧ Gives "column" decodeUInt32 members (some p.column) := by
  have read := decodeMembers_eq_ok_iff addMember {}
    (fun ms m => PassesOver fieldNames ms ∧ Gives "line" decodeUInt32 ms m.line ∧
      Gives "column" decodeUInt32 ms m.column) ?_ ?_ members
  · simp only [ofJson, decodeRecord, bind_eq_ok_iff, read, given_eq_ok_iff, pure_eq_ok_iff]
    constructor
    · rintro ⟨m, ⟨named, passed, hl, hc⟩, _, line, _, column, rfl⟩
      exact ⟨named, passed, line ▸ hl, column ▸ hc⟩
    · rintro ⟨named, passed, hl, hc⟩
      exact ⟨⟨_, _⟩, ⟨named, passed, hl, hc⟩, _, rfl, _, rfl, rfl⟩
  · rintro ⟨line, column⟩
    simp [PassesOver, gives_nil]
  · intro ms key v b
    rw [passesOver_snoc, gives_snoc, gives_snoc]
    constructor
    · rintro ⟨⟨passed, skipped⟩, ⟨line, hl, sl⟩, column, hc, sc⟩
      exact ⟨⟨line, column⟩, ⟨passed, hl, hc⟩, addMember_eq_ok_iff.2 ⟨skipped, sl, sc⟩⟩
    · rintro ⟨a, ⟨passed, hl, hc⟩, h⟩
      obtain ⟨skipped, sl, sc⟩ := addMember_eq_ok_iff.1 h
      exact ⟨⟨passed, skipped⟩, ⟨_, hl, sl⟩, _, hc, sc⟩

end Pos

namespace Limit

/-- The names of a limit's members. -/
def fieldNames : List String := ["kind", "value", "lower", "upper", "close"]

theorem addMember_eq_ok_iff {m m' : Members} {key : String} {v : Json} :
    addMember m key v = .ok m' ↔ (key ∉ fieldNames → skip v = .ok ()) ∧
      slot "kind" decodeKind m.kind key v = .ok m'.kind ∧ slot "value" decodeString m.value key v = .ok m'.value ∧
      slot "lower" decodeUInt64 m.lower key v = .ok m'.lower ∧ slot "upper" decodeUInt64 m.upper key v = .ok m'.upper ∧
      slot "close" decodeBool m.close key v = .ok m'.close := by
  obtain ⟨kind, value, lower, upper, close⟩ := m
  obtain ⟨kind', value', lower', upper', close'⟩ := m'
  unfold addMember slot fieldNames
  split_ifs <;> grind

theorem ofJson_object_iff {surplus : DecodeError} {members : List (Key × Json)} {l : Limit} :
    ofJson surplus (.object members none) = .ok l ↔ AllNamed members ∧ PassesOver fieldNames members ∧
      Gives "kind" decodeKind members (some l.kind) ∧ Gives "value" decodeString members (some l.value) ∧
      GivesOr "lower" decodeUInt64 0 members l.lower ∧ GivesOr "upper" decodeUInt64 0 members l.upper ∧
      GivesOr "close" decodeBool false members l.close := by
  have read := decodeMembers_eq_ok_iff addMember {}
    (fun ms m => PassesOver fieldNames ms ∧ Gives "kind" decodeKind ms m.kind ∧
      Gives "value" decodeString ms m.value ∧ Gives "lower" decodeUInt64 ms m.lower ∧
      Gives "upper" decodeUInt64 ms m.upper ∧ Gives "close" decodeBool ms m.close) ?_ ?_ members
  · simp only [ofJson, decodeRecord, bind_eq_ok_iff, read, given_eq_ok_iff, pure_eq_ok_iff]
    constructor
    · rintro ⟨m, ⟨named, passed, hk, hv, hl, hu, hc⟩, _, kind, _, value, rfl⟩
      exact ⟨named, passed, kind ▸ hk, value ▸ hv, ⟨_, hl, rfl⟩, ⟨_, hu, rfl⟩, _, hc, rfl⟩
    · rintro ⟨named, passed, hk, hv, ⟨lower, hl, el⟩, ⟨upper, hu, eu⟩, close, hc, ec⟩
      refine ⟨⟨_, _, lower, upper, close⟩, ⟨named, passed, hk, hv, hl, hu, hc⟩, _, rfl, _, rfl, ?_⟩
      rw [el, eu, ec]
  · rintro ⟨kind, value, lower, upper, close⟩
    simp [PassesOver, gives_nil]
  · intro ms key v b
    rw [passesOver_snoc, gives_snoc, gives_snoc, gives_snoc, gives_snoc, gives_snoc]
    constructor
    · rintro ⟨⟨passed, skipped⟩, ⟨kind, hk, sk⟩, ⟨value, hv, sv⟩, ⟨lower, hl, sl⟩, ⟨upper, hu, su⟩, close, hc, sc⟩
      exact ⟨⟨kind, value, lower, upper, close⟩, ⟨passed, hk, hv, hl, hu, hc⟩,
        addMember_eq_ok_iff.2 ⟨skipped, sk, sv, sl, su, sc⟩⟩
    · rintro ⟨a, ⟨passed, hk, hv, hl, hu, hc⟩, h⟩
      obtain ⟨skipped, sk, sv, sl, su, sc⟩ := addMember_eq_ok_iff.1 h
      exact ⟨⟨passed, skipped⟩, ⟨_, hk, sk⟩, ⟨_, hv, sv⟩, ⟨_, hl, sl⟩, ⟨_, hu, su⟩, _, hc, sc⟩

end Limit

namespace Field

/-- The names of a field's members. -/
def fieldNames : List String := ["name", "type", "pos"]

theorem addMember_eq_ok_iff {m m' : Members} {key : String} {v : Json} :
    addMember m key v = .ok m' ↔ (key ∉ fieldNames → skip v = .ok ()) ∧
      slot "name" decodeString m.name key v = .ok m'.name ∧ slot "type" FieldType.ofJson m.type key v = .ok m'.type ∧
      slot "pos" (Pos.ofJson whileHeld) m.pos key v = .ok m'.pos := by
  obtain ⟨name, type, pos⟩ := m
  obtain ⟨name', type', pos'⟩ := m'
  unfold addMember slot fieldNames
  split_ifs <;> grind

theorem ofJson_object_iff {members : List (Key × Json)} {f : Field} :
    ofJson (.object members none) = .ok f ↔ AllNamed members ∧ PassesOver fieldNames members ∧
      Gives "name" decodeString members (some f.name) ∧ Gives "type" FieldType.ofJson members (some f.type) ∧
      GivesOr "pos" (Pos.ofJson whileHeld) {} members f.pos := by
  have read := decodeMembers_eq_ok_iff addMember {}
    (fun ms m => PassesOver fieldNames ms ∧ Gives "name" decodeString ms m.name ∧
      Gives "type" FieldType.ofJson ms m.type ∧ Gives "pos" (Pos.ofJson whileHeld) ms m.pos) ?_ ?_ members
  · simp only [ofJson, decodeRecord, bind_eq_ok_iff, read, given_eq_ok_iff, pure_eq_ok_iff]
    constructor
    · rintro ⟨m, ⟨named, passed, hn, ht, hp⟩, _, name, _, type, rfl⟩
      exact ⟨named, passed, name ▸ hn, type ▸ ht, _, hp, rfl⟩
    · rintro ⟨named, passed, hn, ht, pos, hp, ep⟩
      refine ⟨⟨_, _, pos⟩, ⟨named, passed, hn, ht, hp⟩, _, rfl, _, rfl, ?_⟩
      rw [ep]
  · rintro ⟨name, type, pos⟩
    simp [PassesOver, gives_nil]
  · intro ms key v b
    rw [passesOver_snoc, gives_snoc, gives_snoc, gives_snoc]
    constructor
    · rintro ⟨⟨passed, skipped⟩, ⟨name, hn, sn⟩, ⟨type, ht, st⟩, pos, hp, sp⟩
      exact ⟨⟨name, type, pos⟩, ⟨passed, hn, ht, hp⟩, addMember_eq_ok_iff.2 ⟨skipped, sn, st, sp⟩⟩
    · rintro ⟨a, ⟨passed, hn, ht, hp⟩, h⟩
      obtain ⟨skipped, sn, st, sp⟩ := addMember_eq_ok_iff.1 h
      exact ⟨⟨passed, skipped⟩, ⟨_, hn, sn⟩, ⟨_, ht, st⟩, _, hp, sp⟩

end Field

namespace Rule

/-- The names of a rule's members. -/
def fieldNames : List String := ["name", "pos", "actions"]

theorem addMember_eq_ok_iff {levels : Nat} {m m' : Members} {key : String} {v : Json} :
    addMember levels m key v = .ok m' ↔ (key ∉ fieldNames → skip v = .ok ()) ∧
      slot "name" decodeString m.name key v = .ok m'.name ∧
      slot "pos" (Pos.ofJson whileReading) m.pos key v = .ok m'.pos ∧
      slot "actions" (decodeActions levels) m.actions key v = .ok m'.actions := by
  obtain ⟨name, pos, actions⟩ := m
  obtain ⟨name', pos', actions'⟩ := m'
  unfold addMember slot fieldNames
  split_ifs <;> grind

theorem ofJson_object_iff {levels : Nat} {members : List (Key × Json)} {r : Rule} :
    ofJson levels (.object members none) = .ok r ↔ AllNamed members ∧ PassesOver fieldNames members ∧
      Gives "name" decodeString members (some r.name) ∧ GivesOr "pos" (Pos.ofJson whileReading) {} members r.pos ∧
      GivesOr "actions" (decodeActions levels) [] members r.actions := by
  have read := decodeMembers_eq_ok_iff (addMember levels) {}
    (fun ms m => PassesOver fieldNames ms ∧ Gives "name" decodeString ms m.name ∧
      Gives "pos" (Pos.ofJson whileReading) ms m.pos ∧ Gives "actions" (decodeActions levels) ms m.actions)
    ?_ ?_ members
  · simp only [ofJson, decodeRecord, bind_eq_ok_iff, read, given_eq_ok_iff, pure_eq_ok_iff]
    constructor
    · rintro ⟨m, ⟨named, passed, hn, hp, ha⟩, _, name, rfl⟩
      exact ⟨named, passed, name ▸ hn, ⟨_, hp, rfl⟩, _, ha, rfl⟩
    · rintro ⟨named, passed, hn, ⟨pos, hp, ep⟩, actions, ha, ea⟩
      refine ⟨⟨_, pos, actions⟩, ⟨named, passed, hn, hp, ha⟩, _, rfl, ?_⟩
      rw [ep, ea]
  · rintro ⟨name, pos, actions⟩
    simp [PassesOver, gives_nil]
  · intro ms key v b
    rw [passesOver_snoc, gives_snoc, gives_snoc, gives_snoc]
    constructor
    · rintro ⟨⟨passed, skipped⟩, ⟨name, hn, sn⟩, ⟨pos, hp, sp⟩, actions, ha, sa⟩
      exact ⟨⟨name, pos, actions⟩, ⟨passed, hn, hp, ha⟩, addMember_eq_ok_iff.2 ⟨skipped, sn, sp, sa⟩⟩
    · rintro ⟨a, ⟨passed, hn, hp, ha⟩, h⟩
      obtain ⟨skipped, sn, sp, sa⟩ := addMember_eq_ok_iff.1 h
      exact ⟨⟨passed, skipped⟩, ⟨_, hn, sn⟩, ⟨_, hp, sp⟩, _, ha, sa⟩

end Rule

namespace RuleSet

/-- The names of a rule set's members. -/
def fieldNames : List String := ["rules"]

theorem addMember_eq_ok_iff {rules rules' : Option (List Rule)} {key : String} {v : Json} :
    addMember rules key v = .ok rules' ↔ (key ∉ fieldNames → skip v = .ok ()) ∧
      slot "rules" decodeRules rules key v = .ok rules' := by
  unfold addMember slot fieldNames
  split_ifs <;> grind

theorem ofJson_object_iff {members : List (Key × Json)} {rs : RuleSet} :
    ofJson (.object members none) = .ok rs ↔ AllNamed members ∧ PassesOver fieldNames members ∧
      Gives "rules" decodeRules members (some rs.rules) := by
  have read := decodeMembers_eq_ok_iff addMember none
    (fun ms rules => PassesOver fieldNames ms ∧ Gives "rules" decodeRules ms rules) ?_ ?_ members
  · simp only [ofJson, decodeRecord, bind_eq_ok_iff, read, given_eq_ok_iff, pure_eq_ok_iff]
    constructor
    · rintro ⟨_, ⟨named, passed, hr⟩, _, rules, rfl⟩
      exact ⟨named, passed, rules ▸ hr⟩
    · rintro ⟨named, passed, hr⟩
      exact ⟨_, ⟨named, passed, hr⟩, _, rfl, rfl⟩
  · intro rules
    simp [PassesOver, gives_nil]
  · intro ms key v b
    rw [passesOver_snoc, gives_snoc]
    constructor
    · rintro ⟨⟨passed, skipped⟩, rules, hr, sr⟩
      exact ⟨rules, ⟨passed, hr⟩, addMember_eq_ok_iff.2 ⟨skipped, sr⟩⟩
    · rintro ⟨rules, ⟨passed, hr⟩, h⟩
      obtain ⟨skipped, sr⟩ := addMember_eq_ok_iff.1 h
      exact ⟨⟨passed, skipped⟩, rules, hr, sr⟩

end RuleSet

/-! ## Actions -/

namespace Action

/-- What an action's members can say besides its position and its kind. -/
inductive Slot
  | name
  | body
  | char
  | string
  | count
  | field
  | limit
  deriving DecidableEq

/-- The name of the member that says it. -/
def Slot.key : Slot → String
  | name => "name"
  | body => "actions"
  | char => "value"
  | string => "value"
  | count => "count"
  | field => "field"
  | limit => "limit"

/-- What an action of a shape needs. -/
def Shape.slots : Shape → List Slot
  | unnamed => [.body]
  | named => [.name, .body]
  | atEnd => []
  | errorOnMismatch => []
  | headChar _ => [.char]
  | headString _ => [.string]
  | passFirst => [.count]
  | passUntil _ => [.limit]
  | take _ => [.field, .limit]
  | takeRest => [.field]

section

variable {β : Type} (shape : Shape) (s : Slot) (decode : Json → Decoded β)

/-- The members say what the shape needs, and are not asked for what it does not need. -/
def GivesSlot (members : List (Key × Json)) (o : Option β) : Prop :=
  if s ∈ shape.slots then Gives s.key decode members o else o = none

/-- What is known after a member. -/
def fill (before : Option β) (key : String) (v : Json) : Decoded (Option β) :=
  if s ∈ shape.slots then slot s.key decode before key v else .ok before

variable {shape s decode}

theorem givesSlot_nil {o : Option β} : GivesSlot shape s decode [] o ↔ o = none := by
  unfold GivesSlot
  split
  · exact gives_nil
  · exact Iff.rfl

theorem givesSlot_snoc {members : List (Key × Json)} {key : String} {v : Json} {after : Option β} :
    GivesSlot shape s decode (members ++ [(.name key, v)]) after ↔
      ∃ before, GivesSlot shape s decode members before ∧ fill shape s decode before key v = .ok after := by
  unfold GivesSlot fill
  split
  · exact gives_snoc
  · simp [eq_comm]

end

variable {decodeBody : Json → Decoded (List Action)} {surplus : DecodeError} {levels : Nat} {shape : Shape}

/-- What the members say, as far as the shape needs it. -/
structure Members.Given (decodeBody : Json → Decoded (List Action)) (shape : Shape) (members : List (Key × Json))
    (m : Members) : Prop where
  name : GivesSlot shape .name decodeString members m.name
  actions : GivesSlot shape .body decodeBody members m.actions
  char : GivesSlot shape .char decodeChar members m.char
  string : GivesSlot shape .string decodeString members m.string
  count : GivesSlot shape .count decodeUInt64 members m.count
  field : GivesSlot shape .field Field.ofJson members m.field
  limit : GivesSlot shape .limit (Limit.ofJson whileHeld) members m.limit

theorem addMember_eq_ok_iff {m m' : Members} {key : String} {v : Json} :
    addMember decodeBody shape m key v = .ok m' ↔
      fill shape .name decodeString m.name key v = .ok m'.name ∧
      fill shape .body decodeBody m.actions key v = .ok m'.actions ∧
      fill shape .char decodeChar m.char key v = .ok m'.char ∧
      fill shape .string decodeString m.string key v = .ok m'.string ∧
      fill shape .count decodeUInt64 m.count key v = .ok m'.count ∧
      fill shape .field Field.ofJson m.field key v = .ok m'.field ∧
      fill shape .limit (Limit.ofJson whileHeld) m.limit key v = .ok m'.limit := by
  obtain ⟨name, actions, char, string, count, field, limit⟩ := m
  obtain ⟨name', actions', char', string', count', field', limit'⟩ := m'
  unfold addMember fill slot
  split
  case h_11 => cases shape <;> grind [Shape.slots, Slot.key]
  all_goals grind [Shape.slots, Slot.key]

theorem decodeMembers_addMember_eq_ok_iff {members : List (Key × Json)} {m : Members} :
    decodeMembers (addMember decodeBody shape) {} members none = .ok m ↔
      AllNamed members ∧ m.Given decodeBody shape members := by
  refine decodeMembers_eq_ok_iff _ _ (Members.Given decodeBody shape) ?_ ?_ members m
  · rintro ⟨name, actions, char, string, count, field, limit⟩
    constructor
    · rintro ⟨hn, ha, hc, hs, hk, hf, hl⟩
      simp only [givesSlot_nil] at hn ha hc hs hk hf hl
      rw [hn, ha, hc, hs, hk, hf, hl]
    · rintro ⟨⟩
      constructor <;> exact givesSlot_nil.2 rfl
  · intro ms key v b
    constructor
    · rintro ⟨hn, ha, hc, hs, hk, hf, hl⟩
      obtain ⟨_, gn, sn⟩ := givesSlot_snoc.1 hn
      obtain ⟨_, ga, sa⟩ := givesSlot_snoc.1 ha
      obtain ⟨_, gc, sc⟩ := givesSlot_snoc.1 hc
      obtain ⟨_, gs, ss⟩ := givesSlot_snoc.1 hs
      obtain ⟨_, gk, sk⟩ := givesSlot_snoc.1 hk
      obtain ⟨_, gf, sf⟩ := givesSlot_snoc.1 hf
      obtain ⟨_, gl, sl⟩ := givesSlot_snoc.1 hl
      exact ⟨⟨_, _, _, _, _, _, _⟩, ⟨gn, ga, gc, gs, gk, gf, gl⟩, addMember_eq_ok_iff.2 ⟨sn, sa, sc, ss, sk, sf, sl⟩⟩
    · rintro ⟨a, ⟨gn, ga, gc, gs, gk, gf, gl⟩, h⟩
      obtain ⟨sn, sa, sc, ss, sk, sf, sl⟩ := addMember_eq_ok_iff.1 h
      exact ⟨givesSlot_snoc.2 ⟨_, gn, sn⟩, givesSlot_snoc.2 ⟨_, ga, sa⟩, givesSlot_snoc.2 ⟨_, gc, sc⟩,
        givesSlot_snoc.2 ⟨_, gs, ss⟩, givesSlot_snoc.2 ⟨_, gk, sk⟩, givesSlot_snoc.2 ⟨_, gf, sf⟩,
        givesSlot_snoc.2 ⟨_, gl, sl⟩⟩

/-- The members that are held until the kind is known: all but the position. -/
def heldOf : List (Key × Json) → List (String × Json)
  | [] => []
  | (.unfit, _) :: rest => heldOf rest
  | (.name key, v) :: rest => if key = "pos" then heldOf rest else (key, v) :: heldOf rest

theorem heldOf_snoc (members : List (Key × Json)) (key : String) (v : Json) :
    heldOf (members ++ [(.name key, v)]) = if key = "pos" then heldOf members else heldOf members ++ [(key, v)] := by
  induction members with
  | nil => simp only [List.nil_append, heldOf]
  | cons m members ih =>
    obtain ⟨k, w⟩ := m
    cases k <;> simp only [List.cons_append, heldOf, ih]
    split_ifs <;> rfl

/-- All members but the position can be held. -/
def Holds (levels : Nat) (members : List (Key × Json)) : Prop :=
  ∀ m ∈ members, m.1 ≠ .name "pos" → holdable levels m.2 = .ok ()

theorem holds_snoc {members : List (Key × Json)} {key : String} {v : Json} :
    Holds levels (members ++ [(.name key, v)]) ↔ Holds levels members ∧ (key ≠ "pos" → holdable levels v = .ok ()) := by
  unfold Holds
  rw [List.forall_mem_append, List.forall_mem_singleton]
  simp only [ne_eq, Key.name.injEq]

theorem hold_eq_ok_iff {h h' : Held} {key : String} {v : Json} :
    hold surplus levels h key v = .ok h' ↔ (key ≠ "pos" → holdable levels v = .ok ()) ∧
      slot "pos" (Pos.ofJson surplus) h.pos key v = .ok h'.pos ∧
      h'.others = if key = "pos" then h.others else (key, v) :: h.others := by
  obtain ⟨pos, others⟩ := h
  obtain ⟨pos', others'⟩ := h'
  unfold hold slot
  split_ifs <;> grind

theorem decodeMembers_hold_eq_ok_iff {members : List (Key × Json)} {h : Held} :
    decodeMembers (hold surplus levels) {} members none = .ok h ↔ AllNamed members ∧ Holds levels members ∧
      Gives "pos" (Pos.ofJson surplus) members h.pos ∧ h.others = (heldOf members).reverse := by
  refine decodeMembers_eq_ok_iff (hold surplus levels) {} (fun ms (h : Held) => Holds levels ms ∧
    Gives "pos" (Pos.ofJson surplus) ms h.pos ∧ h.others = (heldOf ms).reverse) ?_ ?_ members h
  · rintro ⟨pos, others⟩
    simp [Holds, gives_nil, heldOf]
  · intro ms key v b
    have others : (heldOf (ms ++ [(.name key, v)])).reverse =
        if key = "pos" then (heldOf ms).reverse else (key, v) :: (heldOf ms).reverse := by
      rw [heldOf_snoc]
      split_ifs <;> simp
    rw [holds_snoc, gives_snoc, others]
    constructor
    · rintro ⟨⟨held, holds⟩, ⟨pos, hp, sp⟩, rest⟩
      exact ⟨⟨pos, _⟩, ⟨held, hp, rfl⟩, hold_eq_ok_iff.2 ⟨holds, sp, rest⟩⟩
    · rintro ⟨a, ⟨held, hp, before⟩, h⟩
      obtain ⟨holds, sp, rest⟩ := hold_eq_ok_iff.1 h
      rw [before] at rest
      exact ⟨⟨held, holds⟩, ⟨_, hp, sp⟩, rest⟩

theorem heldOf_filter_kind (members : List (Key × Json)) :
    (heldOf members).filter (·.1 = "kind") = (valuesOf "kind" members).map ("kind", ·) := by
  induction members with
  | nil => rfl
  | cons m members ih =>
    obtain ⟨k, v⟩ := m
    cases k with
    | unfit => simp [heldOf, valuesOf, ih]
    | name key =>
      by_cases hp : key = "pos"
      · simp [heldOf, valuesOf, hp, ih]
      · by_cases hk : key = "kind" <;> simp [heldOf, valuesOf, hp, hk, ih]

/-- The kind is that of the only member of this name. -/
theorem heldShape_eq_ok_iff {members : List (Key × Json)} :
    heldShape (heldOf members) = .ok shape ↔ Gives "kind" decodeShape members (some shape) := by
  unfold heldShape Gives
  rw [heldOf_filter_kind]
  rcases valuesOf "kind" members with _ | ⟨v, _ | ⟨w, rest⟩⟩
  · simp
  · simp only [List.map_cons, List.map_nil, List.isEmpty_nil, if_true, bind_eq_ok_iff, pure_eq_ok_iff]
    grind
  · simp only [List.map_cons, List.isEmpty_cons, Bool.false_eq_true, if_false, bind_eq_ok_iff]
    simp [throw, throwThe, MonadExceptOf.throw]

/-- Of the members that were held the position was none, and no shape needs one. -/
theorem addAll_heldOf {members : List (Key × Json)} (named : AllNamed members) (m : Members) :
    addAll decodeBody shape m (heldOf members) = decodeMembers (addMember decodeBody shape) m members none := by
  induction members generalizing m with
  | nil => rfl
  | cons x members ih =>
    obtain ⟨key, v⟩ := x
    obtain ⟨first, others⟩ := List.forall_mem_cons.1 named
    cases key with
    | unfit => exact absurd rfl first
    | name key =>
      rw [heldOf, decodeMembers]
      split_ifs with hp
      · have passed : addMember decodeBody shape m key v = .ok m := by subst hp; cases shape <;> rfl
        rw [passed]
        exact ih others m
      · rw [addAll, List.foldlM_cons]
        rcases addMember decodeBody shape m key v with e | m'
        · rfl
        · exact ih others m'

/-- An action is read from its position, its kind and what its kind needs, wherever they stand. -/
theorem ofObject_object_iff {members : List (Key × Json)} {a : Action} :
    ofObject decodeBody surplus levels (.object members none) = .ok a ↔ AllNamed members ∧ Holds levels members ∧
      ∃ pos shape m, GivesOr "pos" (Pos.ofJson surplus) {} members pos ∧
        Gives "kind" decodeShape members (some shape) ∧ m.Given decodeBody shape members ∧
        ofMembers pos m shape = .ok a := by
  simp only [ofObject, bind_eq_ok_iff, decodeMembers_hold_eq_ok_iff]
  constructor
  · rintro ⟨⟨pos, others⟩, ⟨named, held, hp, rfl⟩, shape, hs, m, hm, done⟩
    rw [List.reverse_reverse] at hs hm
    have given := (addAll_heldOf named {}).symm.trans hm
    exact ⟨named, held, _, shape, m, ⟨pos, hp, rfl⟩, heldShape_eq_ok_iff.1 hs,
      (decodeMembers_addMember_eq_ok_iff.1 given).2, done⟩
  · rintro ⟨named, held, _, shape, m, ⟨pos, hp, rfl⟩, hs, hm, done⟩
    refine ⟨⟨pos, (heldOf members).reverse⟩, ⟨named, held, hp, rfl⟩, shape, ?_, m, ?_, done⟩
    · rw [List.reverse_reverse]
      exact heldShape_eq_ok_iff.2 hs
    · rw [List.reverse_reverse]
      exact (addAll_heldOf named {}).trans (decodeMembers_addMember_eq_ok_iff.2 ⟨named, hm⟩)

end Action

end LineRules
