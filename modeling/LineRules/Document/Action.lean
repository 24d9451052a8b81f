/-
Actions as JSON. An action is an object with the name or the number of its kind, its position, and
what its kind needs. The members stand in any order, so nothing but the position is decoded before
the whole object has been read; until then the other members are held.
-/
import LineRules.Document.Parts

namespace LineRules

open Document

namespace Action

/-! ## Kinds -/

/-- What an action of a kind is made of. -/
inductive Shape
  | unnamed
  | named
  | atEnd
  | errorOnMismatch
  | headChar (optional : Bool)
  | headString (optional : Bool)
  | passFirst
  | passUntil (ignore : Bool)
  | take (orRest : Bool)
  | takeRest
  deriving Repr, DecidableEq

/-- The kinds of actions by name. A kind may also be given by its place in this list. -/
def shapes : List (String × Shape) := [
  ("anonymous_option", .unnamed),
  ("named_optional", .named),
  ("at_end", .atEnd),
  ("error_on_mismatch", .errorOnMismatch),
  ("may_be_start_char", .headChar true),
  ("may_be_start_string", .headString true),
  ("start_char", .headChar false),
  ("start_string", .headString false),
  ("pass_first", .passFirst),
  ("pass_until", .passUntil false),
  ("pass_until_or_ignore", .passUntil true),
  ("take", .take false),
  ("take_rest", .takeRest),
  ("take_until_or_rest", .take true)]

/-- A kind, by its name or by its number. -/
def decodeShape : Json → Decoded Shape
  | .string s =>
    match shapes.lookup s with
    | some shape => .ok shape
    | none => .error (.shape (.unknownVariant s))
  | .number (.natural n) =>
    match shapes[n.toNat]? with
    | some (_, shape) => .ok shape
    | none => .error (.shape .invalidValue)
  | v => .error (wrongType v)

/-! ## Decoding -/

/-- The members of an action, read and held. -/
structure Held where
  pos : Option Pos := none
  /-- All members but the position, latest first. -/
  others : List (String × Json) := []

/-- Reads a member of an action in which arrays and objects may be nested `levels` deep. -/
def hold (surplus : DecodeError) (levels : Nat) (h : Held) (key : String) (v : Json) :
    Decoded Held := do
  if key = "pos" then return { h with pos := ← once key h.pos (Pos.ofJson surplus v) }
  else do
    holdable levels v
    return { h with others := (key, v) :: h.others }

/-- The kind of an action. The first mention must be right before a second one is an error. -/
def heldShape (others : List (String × Json)) : Decoded Shape :=
  match others.filter (·.1 = "kind") with
  | [] => .error (.shape (.missingField "kind"))
  | (_, v) :: again => do
    let shape ← decodeShape v
    if again.isEmpty then return shape else throw (.shape (.duplicateField "kind"))

/-- What an action's members say. -/
structure Members where
  name : Option String := none
  actions : Option (List Action) := none
  char : Option Char := none
  string : Option String := none
  count : Option UInt64 := none
  field : Option Field := none
  limit : Option Limit := none

/-- Decodes a member of an action of a given shape. Members that the shape does not need are passed
over. -/
def addMember (decodeBody : Json → Decoded (List Action)) (shape : Shape) (m : Members)
    (key : String) (v : Json) : Decoded Members := do
  match shape, key with
  | .unnamed, "actions" | .named, "actions" =>
    return { m with actions := ← once key m.actions (decodeBody v) }
  | .named, "name" => return { m with name := ← once key m.name (decodeString v) }
  | .headChar _, "value" => return { m with char := ← once key m.char (decodeChar v) }
  | .headString _, "value" => return { m with string := ← once key m.string (decodeString v) }
  | .passFirst, "count" => return { m with count := ← once key m.count (decodeUInt64 v) }
  | .passUntil _, "limit" | .take _, "limit" =>
    return { m with limit := ← once key m.limit (Limit.ofJson whileHeld v) }
  | .take _, "field" | .takeRest, "field" =>
    return { m with field := ← once key m.field (Field.ofJson v) }
  | _, _ => return m

/-- The action with the given members. -/
def ofMembers (pos : Pos) (m : Members) : Shape → Decoded Action
  | .unnamed => do
    let body ← given "actions" m.actions
    return .unnamed pos body
  | .named => do
    let name ← given "name" m.name
    let body ← given "actions" m.actions
    return .named pos name body
  | .atEnd => return .step pos .atEnd
  | .errorOnMismatch => return .step pos .errorOnMismatch
  | .headChar optional => do
    let value ← given "value" m.char
    return .step pos (.head (.char value) optional)
  | .headString optional => do
    let value ← given "value" m.string
    return .step pos (.head (.string value) optional)
  | .passFirst => do
    let count ← given "count" m.count
    return .step pos (.passFirst count)
  | .passUntil ignore => do
    let limit ← given "limit" m.limit
    return .step pos (.passUntil limit ignore)
  | .take orRest => do
    let field ← given "field" m.field
    let limit ← given "limit" m.limit
    return .step pos (.take field limit orRest)
  | .takeRest => do
    let field ← given "field" m.field
    return .step pos (.takeRest field)

/-- An action whose body, if it has one, is decoded by `decodeBody`. -/
def ofObject (decodeBody : Json → Decoded (List Action)) (surplus : DecodeError) (levels : Nat) :
    Json → Decoded Action
  | .object members stop => do
    let held ← decodeMembers (hold surplus levels) {} members stop
    let others := held.others.reverse
    let shape ← heldShape others
    let m ← others.foldlM (fun m (key, v) => addMember decodeBody shape m key v) {}
    ofMembers (held.pos.getD {}) m shape
  | v => .error (wrongType v)

/-- An action in which arrays and objects may be nested `levels` deep. A body is an array of objects
and takes two of these levels. -/
def ofJson : Nat → DecodeError → Json → Decoded Action
  | levels + 2, surplus =>
    ofObject (decodeList (ofJson levels whileHeld)) surplus (levels + 2)
  | levels, surplus => ofObject (decodeList fun _ => .error (.text .malformed)) surplus levels

/-! ## Encoding -/

/-- What an action without a body says besides its position and its kind. -/
def stepMembers : Step → List (String × Json)
  | .atEnd => []
  | .errorOnMismatch => []
  | .head (.char c) _ => [("value", .string (String.ofList [c]))]
  | .head (.string s) _ => [("value", .string s)]
  | .passFirst count => [("count", .natural count)]
  | .passUntil limit _ => [("limit", limit.toJson)]
  | .take field limit _ => [("field", field.toJson), ("limit", limit.toJson)]
  | .takeRest field => [("field", field.toJson)]

mutual

/-- An action as `ofJson` reads it. -/
def toJson : Action → Json
  | a@(.unnamed pos body) =>
    .record [
      ("pos", pos.toJson),
      ("kind", .string a.kind),
      ("actions", .list (listToJson body))]
  | a@(.named pos name body) =>
    .record [
      ("pos", pos.toJson),
      ("kind", .string a.kind),
      ("name", .string name),
      ("actions", .list (listToJson body))]
  | .step pos s => .record (("pos", pos.toJson) :: ("kind", .string s.kind) :: stepMembers s)

/-- Actions in order. -/
def listToJson : List Action → List Json
  | [] => []
  | a :: rest => toJson a :: listToJson rest

end

end Action

end LineRules
