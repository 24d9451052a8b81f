/-
Rule sets loaded back from the documents that describe them. The reader gives the value that was
written, so it remains to see what the decoders make of it: a part, an action, a rule and a rule set
are each decoded to what they were made from. An action holds its members until its kind is known,
and holds only what is not nested too deep; the depth of the value is therefore carried through the
induction over the actions.
-/
import LineRules.Proofs.Compose.Tasks
import LineRules.Proofs.Json.RoundTrip
import LineRules.Source

namespace LineRules

open Document Json

/-! ## Depth -/

namespace Json

mutual

/-- How deep arrays and objects are nested in a value. -/
def depth : Json → Nat
  | .array items _ => depthOfItems items + 1
  | .object members _ => depthOfMembers members + 1
  | _ => 0

/-- How deep arrays and objects are nested in the elements of an array. -/
def depthOfItems : List Json → Nat
  | [] => 0
  | v :: rest => max (depth v) (depthOfItems rest)

/-- How deep arrays and objects are nested in the members of an object. -/
def depthOfMembers : List (Key × Json) → Nat
  | [] => 0
  | (_, v) :: rest => max (depth v) (depthOfMembers rest)

end

end Json

theorem holdableItems_eq_ok {items : List Json} {levels : Nat} (h : ∀ v ∈ items, holdable levels v = .ok ()) :
    holdableItems levels items none = .ok () := by
  induction items with
  | nil => rfl
  | cons v items ih =>
    obtain ⟨first, others⟩ := List.forall_mem_cons.1 h
    rw [holdableItems, first]
    exact ih others

theorem holdableMembers_eq_ok {members : List (String × Json)} {levels : Nat}
    (h : ∀ m ∈ members, holdable levels m.2 = .ok ()) :
    holdableMembers levels (members.map fun m => (.name m.1, m.2)) none = .ok () := by
  induction members with
  | nil => rfl
  | cons m members ih =>
    obtain ⟨first, others⟩ := List.forall_mem_cons.1 h
    rw [List.map_cons, holdableMembers, first]
    exact ih others

theorem depth_le_of_mem_items {items : List Json} {v : Json} (h : v ∈ items) : v.depth ≤ depthOfItems items := by
  induction items with
  | nil => cases h
  | cons w items ih =>
    rw [depthOfItems]
    rcases List.mem_cons.1 h with rfl | h
    · exact Nat.le_max_left _ _
    · exact Nat.le_trans (ih h) (Nat.le_max_right _ _)

theorem depth_le_of_mem_members {members : List (String × Json)} {m : String × Json} (h : m ∈ members) :
    m.2.depth ≤ depthOfMembers (members.map fun m => (.name m.1, m.2)) := by
  induction members with
  | nil => cases h
  | cons n members ih =>
    rw [List.map_cons, depthOfMembers]
    rcases List.mem_cons.1 h with rfl | h
    · exact Nat.le_max_left _ _
    · exact Nat.le_trans (ih h) (Nat.le_max_right _ _)

theorem depth_le_of_record {members : List (String × Json)} {levels : Nat} (key : String)
    (h : (Json.record members).depth ≤ levels + 1) {v : Json} (hm : (key, v) ∈ members) :
    v.depth ≤ levels := by
  rw [Json.record, depth] at h
  exact Nat.le_trans (depth_le_of_mem_members hm) (Nat.le_of_succ_le_succ h)

theorem depth_le_of_list {items : List Json} {levels : Nat} (h : (Json.list items).depth ≤ levels + 1) {v : Json}
    (hv : v ∈ items) : v.depth ≤ levels := by
  rw [Json.list, depth] at h
  exact Nat.le_trans (depth_le_of_mem_items hv) (Nat.le_of_succ_le_succ h)

/-- Values without a fault: complete, with numbers in range, and with names and texts that are well-formed. -/
inductive Fit : Json → Prop
  | null : Fit .null
  | bool (b : Bool) : Fit (.bool b)
  | number (n : Number) : Fit (.number n)
  | string (s : String) : Fit (.string s)
  | list {items : List Json} (fit : ∀ v ∈ items, Fit v) : Fit (.list items)
  | record {members : List (String × Json)} (fit : ∀ m ∈ members, Fit m.2) : Fit (.record members)

theorem Json.Plain.fit {v : Json} (h : Plain v) : Fit v := by
  induction h with
  | null => exact .null
  | bool b => exact .bool b
  | natural n => exact .number _
  | string s => exact .string s
  | list plain ih => exact .list ih
  | record plain ih => exact .record ih

/-- A value without a fault can be held, if it is not nested too deep. -/
theorem holdable_of_fit {v : Json} (h : Fit v) {levels : Nat} (hd : v.depth ≤ levels) :
    holdable levels v = .ok () := by
  induction h generalizing levels with
  | null => simp [holdable]
  | bool b => simp [holdable]
  | number n => simp [holdable]
  | string s => simp [holdable]
  | @list items fit ih =>
    obtain ⟨levels, rfl⟩ : ∃ l, levels = l + 1 := ⟨levels - 1, by rw [Json.list, depth] at hd; omega⟩
    exact holdableItems_eq_ok fun v hv => ih v hv (depth_le_of_list hd hv)
  | @record members fit ih =>
    obtain ⟨levels, rfl⟩ : ∃ l, levels = l + 1 := ⟨levels - 1, by rw [Json.record, depth] at hd; omega⟩
    exact holdableMembers_eq_ok fun m hm => ih m hm (depth_le_of_record m.1 hd hm)

/-! ## Lists -/

theorem decodeItems_cons {α : Type} {decode : Json → Decoded α} {v : Json} {items : List Json} {a : α} {as : List α}
    (h : decode v = .ok a) (hr : decodeItems decode items none = .ok as) :
    decodeItems decode (v :: items) none = .ok (a :: as) := by
  rw [decodeItems, h, hr]
  rfl

/-- A list is read back, if its elements are. -/
theorem decodeItems_map {α : Type} {decode : Json → Decoded α} {encode : α → Json} {as : List α}
    (h : ∀ a ∈ as, decode (encode a) = .ok a) : decodeItems decode (as.map encode) none = .ok as := by
  induction as with
  | nil => rfl
  | cons a as ih =>
    obtain ⟨first, others⟩ := List.forall_mem_cons.1 h
    exact decodeItems_cons first (ih others)

/-! ## Parts -/

section

variable (p : Pos) (l : Limit) (f : Field)

theorem Pos.plain_toJson : Plain p.toJson := .record (by simp [Plain.natural])

theorem Limit.plain_toJson : Plain l.toJson := .record (by simp [Plain.natural, Plain.string, Plain.bool])

theorem Field.plain_toJson : Plain f.toJson := .record (by simp [Plain.string, Pos.plain_toJson])

end

theorem decodeUInt32_natural (n : UInt32) : decodeUInt32 (.natural n.toUInt64) = .ok n := by
  have small : n.toNat < UInt32.size := n.toNat_lt_size
  simp only [Json.natural, decodeUInt32, UInt32.toNat_toUInt64, small, if_true, UInt32.ofNat_toNat]

theorem Pos.ofJson_toJson (surplus : DecodeError) (p : Pos) : Pos.ofJson surplus p.toJson = .ok p := by
  simp [Pos.ofJson, Pos.toJson, Json.record, decodeRecord, decodeMembers, Pos.addMember, once, given,
    decodeUInt32_natural, bind, Except.bind, pure, Except.pure, Except.map]

theorem Limit.ofJson_toJson (surplus : DecodeError) {l : Limit} (h : l.kind.Canonical) :
    Limit.ofJson surplus l.toJson = .ok l := by
  simp [Limit.ofJson, Limit.toJson, Json.record, Json.natural, decodeRecord, decodeMembers, Limit.addMember, once,
    given, decodeKind, decodeString, decodeUInt64, decodeBool, LimitKind.ofName_name h,
    bind, Except.bind, pure, Except.pure, Except.map]

theorem FieldType.ofJson_name (t : FieldType) : FieldType.ofJson (.string t.name) = .ok t := by
  rw [FieldType.ofJson, FieldType.decodeName, FieldType.ofName?_name]

theorem Field.ofJson_toJson (f : Field) : Field.ofJson f.toJson = .ok f := by
  simp [Field.ofJson, Field.toJson, Json.record, decodeRecord, decodeMembers, Field.addMember, once, given,
    decodeString, FieldType.ofJson_name, Pos.ofJson_toJson, bind, Except.bind, pure, Except.pure, Except.map]

/-! ## Actions -/

/-- The limit of an action without a body. -/
def Step.limit? : Step → Option Limit
  | passUntil limit _ => some limit
  | take _ limit _ => some limit
  | _ => none

namespace Action

mutual

/-- The limits of an action and of everything in its body. -/
def limits : Action → List Limit
  | .unnamed _ body => limitsAll body
  | .named _ _ body => limitsAll body
  | .step _ s => s.limit?.toList

/-- The limits of actions in order. -/
def limitsAll : List Action → List Limit
  | [] => []
  | a :: rest => limits a ++ limitsAll rest

end

/-! ## Members of an action -/

/-- The members of an action, decoded one after another. -/
def addAll (decodeBody : Json → Decoded (List Action)) (shape : Shape) (m : Members)
    (others : List (String × Json)) : Decoded Members :=
  others.foldlM (fun m o => addMember decodeBody shape m o.1 o.2) m

theorem addAll_cons {decodeBody : Json → Decoded (List Action)} {shape : Shape} {m m' : Members} {key : String}
    {v : Json} {others : List (String × Json)} (h : addMember decodeBody shape m key v = .ok m') :
    addAll decodeBody shape m ((key, v) :: others) = addAll decodeBody shape m' others := by
  rw [addAll, List.foldlM_cons, h]
  rfl

section

variable (decodeBody : Json → Decoded (List Action)) (surplus : DecodeError) {levels : Nat} (pos : Pos)

/-- Members other than the position are held, the latest in front. -/
theorem decodeMembers_hold (pos : Option Pos) {others : List (String × Json)}
    (h : ∀ m ∈ others, m.1 ≠ "pos" ∧ holdable levels m.2 = .ok ()) (before : List (String × Json)) :
    decodeMembers (hold surplus levels) ⟨pos, before⟩ (others.map fun m => (.name m.1, m.2)) none =
      .ok ⟨pos, others.reverse ++ before⟩ := by
  induction others generalizing before with
  | nil => rfl
  | cons m others ih =>
    obtain ⟨⟨name, held⟩, rest⟩ := List.forall_mem_cons.1 h
    have step : hold surplus levels ⟨pos, before⟩ m.1 m.2 = .ok ⟨pos, m :: before⟩ := by
      rw [hold, if_neg name, held]
      rfl
    rw [List.map_cons, decodeMembers, step, List.reverse_cons, List.append_assoc, List.singleton_append]
    exact ih rest (m :: before)

/-- Plain members that are not nested too deep are held. -/
theorem held_of_depth {first : String × Json} {others : List (String × Json)}
    (plain : ∀ m ∈ others, m.1 ≠ "pos" ∧ Plain m.2) (hd : (Json.record (first :: others)).depth ≤ levels + 1) :
    ∀ m ∈ others, m.1 ≠ "pos" ∧ holdable levels m.2 = .ok () := by
  intro m hm
  obtain ⟨name, plain⟩ := plain m hm
  exact ⟨name, holdable_of_fit plain.fit (depth_le_of_record m.1 hd (List.mem_cons_of_mem first hm))⟩

/-- An action is decoded from its kind and its other members, once they have been held. -/
theorem ofObject_record {kind : String} {others : List (String × Json)}
    (plain : ∀ m ∈ others, m.1 ≠ "pos" ∧ Plain m.2)
    (hd : (Json.record (("pos", pos.toJson) :: ("kind", .string kind) :: others)).depth ≤ levels + 1)
    {shape : Shape} (hs : heldShape (("kind", .string kind) :: others) = .ok shape) {m : Members}
    (hm : addAll decodeBody shape {} others = .ok m) :
    ofObject decodeBody surplus levels (.record (("pos", pos.toJson) :: ("kind", .string kind) :: others)) =
      ofMembers pos m shape := by
  have position : hold surplus levels {} "pos" pos.toJson = .ok ⟨some pos, []⟩ := by
    rw [hold, if_pos rfl, Pos.ofJson_toJson]
    rfl
  have held := decodeMembers_hold surplus (some pos)
    (held_of_depth (List.forall_mem_cons.2 ⟨⟨by simp, .string kind⟩, plain⟩) hd) []
  rw [List.append_nil] at held
  -- the kind is among the members that were held, and has been decoded by then
  have known : addMember decodeBody shape {} "kind" (.string kind) = .ok {} := by cases shape <;> rfl
  have kept := (addAll_cons known).trans hm
  rw [addAll] at kept
  simp only [Json.record, ofObject, List.map_cons (a := ("pos", pos.toJson)), decodeMembers, position, bind,
    Except.bind, held, List.reverse_reverse, hs]
  rw [kept]
  rfl

variable {decodeBody}

theorem addMember_limit {shape : Shape} (hs : (∃ ignore, shape = .passUntil ignore) ∨ ∃ orRest, shape = .take orRest)
    {m : Members} (new : m.limit = none) {limit : Limit} (h : limit.kind.Canonical) :
    addMember decodeBody shape m "limit" limit.toJson = .ok { m with limit := some limit } := by
  rcases hs with ⟨_, rfl⟩ | ⟨_, rfl⟩ <;> simp only [addMember, new, once, Limit.ofJson_toJson whileHeld h] <;> rfl

theorem addMember_field {shape : Shape} (hs : (∃ orRest, shape = .take orRest) ∨ shape = .takeRest) {m : Members}
    (new : m.field = none) (field : Field) :
    addMember decodeBody shape m "field" field.toJson = .ok { m with field := some field } := by
  rcases hs with ⟨_, rfl⟩ | rfl <;> simp only [addMember, new, once, Field.ofJson_toJson field] <;> rfl

theorem addMember_actions {shape : Shape} (hs : shape = .unnamed ∨ shape = .named) {m : Members}
    (new : m.actions = none) {v : Json} {body : List Action} (h : decodeBody v = .ok body) :
    addMember decodeBody shape m "actions" v = .ok { m with actions := some body } := by
  rcases hs with rfl | rfl <;> simp only [addMember, new, once, h] <;> rfl

end

/-! ## Actions read back -/

section

variable (decodeBody : Json → Decoded (List Action)) (surplus : DecodeError) {levels : Nat} (pos : Pos)

theorem plain_stepMembers (s : Step) : ∀ m ∈ stepMembers s, m.1 ≠ "pos" ∧ Plain m.2 := by
  cases s with
  | head literal optional => cases literal <;> simp [stepMembers, Plain.string]
  | _ => simp [stepMembers, Plain.natural, Limit.plain_toJson, Field.plain_toJson]

/-- An action without a body is read back. -/
theorem ofObject_step {s : Step} (kinds : ∀ limit, s.limit? = some limit → limit.kind.Canonical)
    (hd : (toJson (.step pos s)).depth ≤ levels + 1) :
    ofObject decodeBody surplus levels (toJson (.step pos s)) = .ok (.step pos s) := by
  have plain := plain_stepMembers s
  rw [toJson] at hd ⊢
  cases s with
  | atEnd => exact ofObject_record decodeBody surplus pos plain hd rfl rfl
  | errorOnMismatch => exact ofObject_record decodeBody surplus pos plain hd rfl rfl
  | head literal optional =>
    cases literal with
    | char c =>
      have char : decodeChar (.string (String.ofList [c])) = .ok c := by simp [decodeChar]
      have member : addMember decodeBody (.headChar optional) {} "value" (.string (String.ofList [c])) =
          .ok { char := some c } := by
        rw [addMember, char]
        rfl
      cases optional <;> exact ofObject_record decodeBody surplus pos plain hd rfl (addAll_cons member)
    | string s => cases optional <;> exact ofObject_record decodeBody surplus pos plain hd rfl rfl
  | passFirst count => exact ofObject_record decodeBody surplus pos plain hd rfl rfl
  | passUntil limit ignore =>
    have canonical := kinds limit rfl
    cases ignore <;> exact ofObject_record decodeBody surplus pos plain hd rfl
      (addAll_cons (addMember_limit (.inl ⟨_, rfl⟩) rfl canonical))
  | take field limit orRest =>
    have canonical := kinds limit rfl
    cases orRest <;> exact ofObject_record decodeBody surplus pos plain hd rfl
      ((addAll_cons (addMember_field (.inl ⟨_, rfl⟩) rfl field)).trans
        (addAll_cons (addMember_limit (.inr ⟨_, rfl⟩) rfl canonical)))
  | takeRest field =>
    exact ofObject_record decodeBody surplus pos plain hd rfl (addAll_cons (addMember_field (.inr rfl) rfl field))

/-- An area is read back, if its body is. -/
theorem ofObject_unnamed {body : List Action} (plain : ∀ v ∈ listToJson body, Plain v)
    (h : decodeBody (.list (listToJson body)) = .ok body) (hd : (toJson (.unnamed pos body)).depth ≤ levels + 1) :
    ofObject decodeBody surplus levels (toJson (.unnamed pos body)) = .ok (.unnamed pos body) := by
  rw [toJson] at hd ⊢
  exact ofObject_record decodeBody surplus pos (List.forall_mem_singleton.2 ⟨by simp, .list plain⟩) hd rfl
    (addAll_cons (addMember_actions (.inl rfl) rfl h))

theorem ofObject_named {name : String} {body : List Action} (plain : ∀ v ∈ listToJson body, Plain v)
    (h : decodeBody (.list (listToJson body)) = .ok body) (hd : (toJson (.named pos name body)).depth ≤ levels + 1) :
    ofObject decodeBody surplus levels (toJson (.named pos name body)) = .ok (.named pos name body) := by
  rw [toJson] at hd ⊢
  have members : ∀ m ∈ [("name", Json.string name), ("actions", .list (listToJson body))],
      m.1 ≠ "pos" ∧ Plain m.2 := by
    simp [Plain.string, Plain.list plain]
  have first : addMember decodeBody .named {} "name" (.string name) = .ok { name := some name } := rfl
  exact ofObject_record decodeBody surplus pos members hd rfl
    ((addAll_cons first).trans (addAll_cons (addMember_actions (.inr rfl) rfl h)))

end

/-- What decodes the body of an action in which arrays and objects may be nested `levels` deep. -/
def bodyDecoder : Nat → Json → Decoded (List Action)
  | levels + 2 => decodeList (ofJson levels whileHeld)
  | _ => decodeList fun _ => .error (.text .malformed)

theorem ofJson_eq (levels : Nat) (surplus : DecodeError) :
    ofJson levels surplus = ofObject (bodyDecoder levels) surplus levels := by
  rcases levels with _ | _ | levels <;> simp only [ofJson, bodyDecoder]

theorem depth_toJson_pos (a : Action) : 0 < (toJson a).depth := by
  cases a <;> rw [toJson, Json.record, depth] <;> exact Nat.succ_pos _

theorem plain_listToJson (acts : List Action) : ∀ v ∈ listToJson acts, Plain v := by
  induction acts using Action.forest_induction with
  | nil => simp [listToJson]
  | unnamed pos body rest hb hr =>
    rw [listToJson, toJson]
    refine List.forall_mem_cons.2 ⟨.record ?_, hr⟩
    simp [Pos.plain_toJson, Plain.string, Plain.list hb]
  | named pos name body rest hb hr =>
    rw [listToJson, toJson]
    refine List.forall_mem_cons.2 ⟨.record ?_, hr⟩
    simp [Pos.plain_toJson, Plain.string, Plain.list hb]
  | step pos s rest hr =>
    rw [listToJson, toJson]
    refine List.forall_mem_cons.2 ⟨.record ?_, hr⟩
    refine List.forall_mem_cons.2 ⟨pos.plain_toJson, List.forall_mem_cons.2 ⟨.string _, ?_⟩⟩
    exact fun m hm => (plain_stepMembers s m hm).2

/-- The actions are read back, wherever they are not nested too deep. -/
def ReadBack (acts : List Action) : Prop :=
  ∀ levels surplus, (∀ limit ∈ limitsAll acts, limit.kind.Canonical) →
    depthOfItems (listToJson acts) ≤ levels + 1 → decodeItems (ofJson levels surplus) (listToJson acts) none = .ok acts

/-- A body is read back, if its actions are. -/
theorem bodyDecoder_listToJson {body : List Action} (h : ReadBack body) {levels : Nat}
    (kinds : ∀ limit ∈ limitsAll body, limit.kind.Canonical)
    (hd : (Json.list (listToJson body)).depth ≤ levels) : bodyDecoder levels (.list (listToJson body)) = .ok body := by
  rw [Json.list, depth] at hd
  rcases levels with _ | _ | levels
  · omega
  · -- without a level for its actions the body has none
    cases body with
    | nil => rfl
    | cons a rest =>
      have := a.depth_toJson_pos
      rw [listToJson, depthOfItems] at hd
      omega
  · exact h levels whileHeld kinds (by omega)

/-- Actions are read back from what describes them. -/
theorem readBack (acts : List Action) : ReadBack acts := by
  induction acts using Action.forest_induction with
  | nil => exact fun _ _ _ _ => rfl
  | unnamed pos body rest hb hr =>
    intro levels surplus kinds hd
    obtain ⟨inside, behind⟩ := List.forall_mem_append.1 kinds
    rw [listToJson, depthOfItems, Nat.max_le] at hd
    have nested : (Json.list (listToJson body)).depth ≤ levels :=
      depth_le_of_record "actions" (by rw [toJson] at hd; exact hd.1) (by simp)
    refine decodeItems_cons ?_ (hr levels surplus behind hd.2)
    rw [ofJson_eq]
    exact ofObject_unnamed _ surplus pos (plain_listToJson body) (bodyDecoder_listToJson hb inside nested) hd.1
  | named pos name body rest hb hr =>
    intro levels surplus kinds hd
    obtain ⟨inside, behind⟩ := List.forall_mem_append.1 kinds
    rw [listToJson, depthOfItems, Nat.max_le] at hd
    have nested : (Json.list (listToJson body)).depth ≤ levels :=
      depth_le_of_record "actions" (by rw [toJson] at hd; exact hd.1) (by simp)
    refine decodeItems_cons ?_ (hr levels surplus behind hd.2)
    rw [ofJson_eq]
    exact ofObject_named _ surplus pos (plain_listToJson body) (bodyDecoder_listToJson hb inside nested) hd.1
  | step pos s rest hr =>
    intro levels surplus kinds hd
    obtain ⟨own, behind⟩ := List.forall_mem_append.1 kinds
    rw [listToJson, depthOfItems, Nat.max_le] at hd
    refine decodeItems_cons ?_ (hr levels surplus behind hd.2)
    rw [ofJson_eq]
    exact ofObject_step _ surplus pos (fun limit hl => own limit (by rw [limits, hl]; simp)) hd.1

end Action

/-! ## Rules and rule sets -/

namespace Rule

theorem plain_toJson (r : Rule) : Plain r.toJson :=
  .record (by simp [Plain.string, Pos.plain_toJson, Plain.list (Action.plain_listToJson r.actions)])

/-- The actions of a rule are read back. -/
theorem decodeActions_listToJson {acts : List Action} {levels : Nat}
    (kinds : ∀ limit ∈ Action.limitsAll acts, limit.kind.Canonical)
    (hd : (Json.list (Action.listToJson acts)).depth < levels) :
    decodeActions levels (.list (Action.listToJson acts)) = .ok acts := by
  rw [Json.list, depth] at hd
  exact Action.readBack acts (levels - 3) whileReading kinds (by omega)

/-- A rule is read back from what describes it. -/
theorem ofJson_toJson {r : Rule} {levels : Nat} (kinds : ∀ limit ∈ Action.limitsAll r.actions, limit.kind.Canonical)
    (hd : r.toJson.depth ≤ levels) : ofJson levels r.toJson = .ok r := by
  obtain ⟨levels, rfl⟩ : ∃ l, levels = l + 1 := ⟨levels - 1, by rw [toJson, Json.record, depth] at hd; omega⟩
  have nested : (Json.list (Action.listToJson r.actions)).depth ≤ levels :=
    depth_le_of_record "actions" hd (by simp)
  have actions := decodeActions_listToJson kinds (Nat.lt_succ_of_le nested)
  simp [ofJson, toJson, Json.record, decodeRecord, decodeMembers, addMember, once, given, decodeString,
    Pos.ofJson_toJson, actions, bind, Except.bind, pure, Except.pure, Except.map]

end Rule

namespace RuleSet

theorem plain_toJson (rs : RuleSet) : Plain rs.toJson := by
  have rules : ∀ v ∈ rs.rules.map Rule.toJson, Plain v := List.forall_mem_map.2 fun r _ => r.plain_toJson
  exact .record (by simp [Plain.list rules])

/-- All delimiters in a rule set are of kinds that go by their own names. -/
def Canonical (rs : RuleSet) : Prop :=
  ∀ rule ∈ rs.rules, ∀ limit ∈ Action.limitsAll rule.actions, limit.kind.Canonical

/-- A rule set is read back from what describes it. -/
theorem ofJson_toJson {rs : RuleSet} (kinds : rs.Canonical) (hd : rs.toJson.depth ≤ maxDepth) :
    ofJson rs.toJson = .ok rs := by
  have list : (Json.list (rs.rules.map Rule.toJson)).depth ≤ maxDepth - 1 :=
    depth_le_of_record "rules" hd (by simp)
  have rules : decodeRules (.list (rs.rules.map Rule.toJson)) = .ok rs.rules := by
    refine decodeItems_map fun rule hr => ?_
    exact Rule.ofJson_toJson (kinds rule hr) (depth_le_of_list list (List.mem_map_of_mem hr))
  simp [ofJson, toJson, Json.record, decodeRecord, decodeMembers, addMember, once, given, rules, bind, Except.bind,
    pure, Except.pure, Except.map]

theorem load_of_read {rs : RuleSet} (kinds : rs.Canonical) (hd : rs.toJson.depth ≤ maxDepth) {text : String}
    (h : Json.read text = { root := rs.toJson }) (path : String) : load path (.ok text) = .ok rs := by
  rw [load, ofText, h, ofDocument, ofJson_toJson kinds hd]
  rfl

/-- A rule set is loaded back from the text that describes it, be it compact or indented. -/
theorem load_written {rs : RuleSet} (kinds : rs.Canonical) (hd : rs.toJson.depth ≤ maxDepth) (path : String) :
    load path (.ok (compact rs.toJson)) = .ok rs ∧ load path (.ok (pretty rs.toJson)) = .ok rs :=
  ⟨load_of_read kinds hd (read_compact rs.plain_toJson) path, load_of_read kinds hd (read_pretty rs.plain_toJson) path⟩

/-- Areas around an action, one in another. -/
def nested : Nat → Action → Action
  | 0, a => a
  | n + 1, a => .named {} "area" [nested n a]

/-- A rule set that is nested as deep as a document may be, with characters that must be escaped, the
largest numbers and a kind of delimiter that is not known. -/
def deepest : RuleSet where
  rules := [{
    name := "\"\\\n\x01é"
    pos := ⟨4294967295, 0⟩
    actions := [nested 60 (.step {} (.take
      { name := "", type := .uint64, pos := {} }
      { kind := .unrecognized "regex", value := "\t", lower := 0, upper := 18446744073709551615, close := true }
      false))] }]

theorem load_written_deepest :
    deepest.Canonical ∧ deepest.toJson.depth = maxDepth ∧
      load "rules.json" (.ok (compact deepest.toJson)) = .ok deepest ∧
      load "rules.json" (.ok (pretty deepest.toJson)) = .ok deepest := by
  have kinds : deepest.Canonical := by
    intro rule hr limit hl
    obtain rfl := List.mem_singleton.1 hr
    obtain rfl := List.mem_singleton.1 hl
    exact ⟨by decide, by decide⟩
  have depth : deepest.toJson.depth = maxDepth := by decide +kernel
  exact ⟨kinds, depth, load_written kinds depth.le "rules.json"⟩

end RuleSet

end LineRules
