/-
Scan operations: what a rule becomes once it is composed. A program is a flat list of operations in
which opening and closing operations bracket the optional areas.
-/
import LineRules.Field
import LineRules.Limit

namespace LineRules

/-- The two kinds of optional areas. -/
inductive ScopeKind
  | unnamed
  | named
  deriving Repr, DecidableEq, Inhabited

/-- A primitive scan operation. -/
inductive Op
  | openUnnamed (pos : Pos)
  | closeUnnamed
  | openNamed (name : String) (pos : Pos)
  | closeNamed
  /-- The qualified path of the operation that follows. -/
  | checkpoint (path : String)
  | atEnd
  | stress
  | head (literal : Literal) (optional : Bool)
  | passFirst (count : UInt64)
  /-- The delimiter stands exactly at `offset`. -/
  | lookupFixed (literal : Literal) (offset : UInt64) (ignore : Bool)
  /-- The delimiter is searched for between `lower` and `upper`. -/
  | lookup (literal : Literal) (lower upper : UInt64) (close ignore : Bool)
  | declareField (name : String) (type : FieldType) (pos : Pos)
  | takeBefore (name : String) (type : FieldType) (literal : Literal) (lower upper : UInt64)
      (close orRest : Bool)
  | takeRest (name : String) (type : FieldType)
  deriving Repr, DecidableEq, Inhabited

namespace Op

/-! ## Listing -/

/-- The window of a search. Nothing is shown for a search without bounds. -/
def windowText (lower upper : UInt64) : String :=
  if lower = 0 ∧ upper = 0 then ""
  else if upper = 0 then "[" ++ Text.decimal lower.toNat ++ ":]"
  else "[" ++ Text.decimal lower.toNat ++ ":" ++ Text.decimal upper.toNat ++ "]"

/-- `shown` if the flag is set. -/
def flagText (flag : Bool) (shown : String) : String := if flag then shown else ""

/-- The line of an operation in a listing, without its indentation. -/
def text : Op → String
  | openUnnamed _ => "open ()"
  | closeUnnamed => "close ()"
  | openNamed name _ => "open ?" ++ name
  | closeNamed => "close ?"
  | checkpoint path => "checkpoint " ++ Text.quoted path
  | atEnd => "at end"
  | stress => "stress"
  | head literal optional => "head" ++ flagText optional "?" ++ " " ++ literal.text
  | passFirst count => "pass " ++ Text.decimal count.toNat
  | lookupFixed literal offset ignore =>
    "lookup" ++ flagText ignore "?" ++ " " ++ literal.text ++ " at " ++ Text.decimal offset.toNat
  | lookup literal lower upper close ignore =>
    "lookup" ++ flagText ignore "?" ++ " " ++ literal.text ++ windowText lower upper
      ++ flagText close " close"
  | declareField name type _ => "field " ++ name ++ " " ++ type.name
  | takeBefore name _ literal lower upper close orRest =>
    "take " ++ name ++ " before " ++ literal.text ++ windowText lower upper
      ++ flagText close " close" ++ flagText orRest " or rest"
  | takeRest name _ => "take " ++ name ++ " rest"

end Op

end LineRules
