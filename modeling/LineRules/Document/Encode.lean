/-
Operations, plans and failures as JSON. Members are in alphabetical order.
-/
import LineRules.Document.Parts
import LineRules.Error
import LineRules.Plan

namespace LineRules

/-- A position with its members in alphabetical order. -/
def Pos.sortedJson (p : Pos) : Json :=
  .record [("column", .natural p.column.toUInt64), ("line", .natural p.line.toUInt64)]

/-- A literal with its kind, so that a character is not taken for a string. -/
def Literal.toJson : Literal → Json
  | .char c => .record [("kind", .string "char"), ("value", .string (String.ofList [c]))]
  | .string s => .record [("kind", .string "string"), ("value", .string s)]

namespace Op

/-- The name of an operation in a document. -/
def name : Op → String
  | openUnnamed _ => "open_unnamed_scope"
  | closeUnnamed => "close_unnamed_scope"
  | openNamed _ _ => "open_named_scope"
  | closeNamed => "close_named_scope"
  | checkpoint _ => "checkpoint"
  | atEnd => "at_end"
  | stress => "stress"
  | head _ _ => "head"
  | passFirst _ => "pass_first"
  | lookupFixed .. => "lookup_fixed"
  | lookup .. => "lookup"
  | declareField .. => "declare_field"
  | takeBefore .. => "take_before"
  | takeRest .. => "take_rest"

/-- An operation: its name, and a member for each of its particulars. -/
def toJson (op : Op) : Json :=
  let tag := ("op", Json.string op.name)
  .record <|
    match op with
    | openUnnamed pos => [tag, ("pos", pos.sortedJson)]
    | closeUnnamed => [tag]
    | openNamed name pos => [("name", .string name), tag, ("pos", pos.sortedJson)]
    | closeNamed => [tag]
    | checkpoint path => [tag, ("path", .string path)]
    | atEnd => [tag]
    | stress => [tag]
    | head literal optional => [("literal", literal.toJson), tag, ("optional", .bool optional)]
    | passFirst count => [("count", .natural count), tag]
    | lookupFixed literal offset ignore =>
      [("ignore", .bool ignore), ("literal", literal.toJson), ("offset", .natural offset), tag]
    | lookup literal lower upper close ignore =>
      [("close", .bool close), ("ignore", .bool ignore), ("literal", literal.toJson),
        ("lower", .natural lower), tag, ("upper", .natural upper)]
    | declareField name type pos =>
      [("name", .string name), tag, ("pos", pos.sortedJson), ("ty", .string type.name)]
    | takeBefore name type literal lower upper close orRest =>
      [("close", .bool close), ("literal", literal.toJson), ("lower", .natural lower),
        ("name", .string name), tag, ("or_rest", .bool orRest), ("ty", .string type.name),
        ("upper", .natural upper)]
    | takeRest name type => [("name", .string name), tag, ("ty", .string type.name)]

end Op

/-- A plan with its operations in order. -/
def Plan.toJson (p : Plan) : Json :=
  .record [
    ("name", .string p.name),
    ("ops", .list (p.ops.map Op.toJson)),
    ("pos", p.pos.sortedJson)]

/-- A failure: its class, its wording, and where it happened. -/
def RuleError.toJson (e : RuleError) : Json :=
  .record [
    ("code", .string e.cause.code),
    ("column", .natural e.pos.column.toUInt64),
    ("line", .natural e.pos.line.toUInt64),
    ("message", .string e.cause.message),
    ("rule", .string e.rule)]

end LineRules
