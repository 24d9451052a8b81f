/-
Positions, limits and fields as JSON. Each is a record: an object whose members stand in any order,
or the array of its fields. Positions, bounds and flags have defaults, and members that are not
known are passed over.
-/
import LineRules.Document.Decode
import LineRules.Rule

namespace LineRules

open Document

/-! ## Positions -/

namespace Pos

/-- The members of a position that have been read. -/
structure Members where
  line : Option UInt32 := none
  column : Option UInt32 := none

/-- Reads a member of a position. -/
def addMember (m : Members) (key : String) (v : Json) : Decoded Members := do
  if key = "line" then return { m with line := ← once key m.line (decodeUInt32 v) }
  else if key = "column" then return { m with column := ← once key m.column (decodeUInt32 v) }
  else do
    skip v
    return m

/-- A position. It has both of its members. An element too many is the error `surplus`. -/
def ofJson (surplus : DecodeError) : Json → Decoded Pos :=
  decodeRecord
    (fun members stop => do
      let m ← decodeMembers addMember {} members stop
      let line ← given "line" m.line
      let column ← given "column" m.column
      return { line := line, column := column })
    (fun items stop => do
      let (line, items) ← nextItem decodeUInt32 items stop
      let line ← present line
      let (column, items) ← nextItem decodeUInt32 items stop
      let column ← present column
      noneLeft surplus items stop
      return { line := line, column := column })

/-- A position as `ofJson` reads it. -/
def toJson (p : Pos) : Json :=
  .record [("line", .natural p.line.toUInt64), ("column", .natural p.column.toUInt64)]

end Pos

/-! ## Limits -/

namespace Limit

/-- The members of a limit that have been read. -/
structure Members where
  kind : Option LimitKind := none
  value : Option String := none
  lower : Option UInt64 := none
  upper : Option UInt64 := none
  close : Option Bool := none

/-- The kind of a delimiter. Any name will do. -/
def decodeKind (v : Json) : Decoded LimitKind := (decodeString v).map LimitKind.ofName

/-- Reads a member of a limit. -/
def addMember (m : Members) (key : String) (v : Json) : Decoded Members := do
  if key = "kind" then return { m with kind := ← once key m.kind (decodeKind v) }
  else if key = "value" then return { m with value := ← once key m.value (decodeString v) }
  else if key = "lower" then return { m with lower := ← once key m.lower (decodeUInt64 v) }
  else if key = "upper" then return { m with upper := ← once key m.upper (decodeUInt64 v) }
  else if key = "close" then return { m with close := ← once key m.close (decodeBool v) }
  else do
    skip v
    return m

/-- A limit. Its bounds and its flag may be left out. An element too many is the error `surplus`. -/
def ofJson (surplus : DecodeError) : Json → Decoded Limit :=
  decodeRecord
    (fun members stop => do
      let m ← decodeMembers addMember {} members stop
      let kind ← given "kind" m.kind
      let value ← given "value" m.value
      return {
        kind := kind
        value := value
        lower := m.lower.getD 0
        upper := m.upper.getD 0
        close := m.close.getD false })
    (fun items stop => do
      let (kind, items) ← nextItem decodeKind items stop
      let kind ← present kind
      let (value, items) ← nextItem decodeString items stop
      let value ← present value
      let (lower, items) ← nextItem decodeUInt64 items stop
      let (upper, items) ← nextItem decodeUInt64 items stop
      let (close, items) ← nextItem decodeBool items stop
      noneLeft surplus items stop
      return {
        kind := kind
        value := value
        lower := lower.getD 0
        upper := upper.getD 0
        close := close.getD false })

/-- A limit as `ofJson` reads it. -/
def toJson (l : Limit) : Json :=
  .record [
    ("kind", .string l.kind.name),
    ("value", .string l.value),
    ("lower", .natural l.lower),
    ("upper", .natural l.upper),
    ("close", .bool l.close)]

end Limit

/-! ## Fields -/

namespace FieldType

/-- The type with a name that a document gives. -/
def decodeName (s : String) : Decoded FieldType :=
  match ofName? s with
  | some t => .ok t
  | none => .error (.shape (.unknownVariant s))

/-- A type is its name, or an object with this one name and nothing under it. -/
def ofJson : Json → Decoded FieldType
  | .string s => decodeName s
  | .object [(.name s, v)] none => do
    let t ← decodeName s
    match v with
    | .null => return t
    | .object [] none => return t
    | _ => throw (.shape .invalidType)
  | .object _ _ => .error (.shape .invalidValue)
  | v => .error (wrongType v)

end FieldType

namespace Field

/-- The members of a field that have been read. -/
structure Members where
  name : Option String := none
  type : Option FieldType := none
  pos : Option Pos := none

/-- Reads a member of a field. -/
def addMember (m : Members) (key : String) (v : Json) : Decoded Members := do
  if key = "name" then return { m with name := ← once key m.name (decodeString v) }
  else if key = "type" then return { m with type := ← once key m.type (FieldType.ofJson v) }
  else if key = "pos" then return { m with pos := ← once key m.pos (Pos.ofJson whileHeld v) }
  else do
    skip v
    return m

/-- A field. Its position may be left out. -/
def ofJson : Json → Decoded Field :=
  decodeRecord
    (fun members stop => do
      let m ← decodeMembers addMember {} members stop
      let name ← given "name" m.name
      let type ← given "type" m.type
      return { name := name, type := type, pos := m.pos.getD {} })
    (fun items stop => do
      let (name, items) ← nextItem decodeString items stop
      let name ← present name
      let (type, items) ← nextItem FieldType.ofJson items stop
      let type ← present type
      let (pos, items) ← nextItem (Pos.ofJson whileHeld) items stop
      noneLeft whileHeld items stop
      return { name := name, type := type, pos := pos.getD {} })

/-- A field as `ofJson` reads it. -/
def toJson (f : Field) : Json :=
  .record [("name", .string f.name), ("type", .string f.type.name), ("pos", f.pos.toJson)]

end Field

end LineRules
