/-
Limits: where a skip or a capture ends. A limit names a delimiter and the window, in characters from
the cursor, in which it may stand. A document may give a kind of delimiter that is not known; such a
limit is kept as it is, and whoever needs its literal finds that it has none.
-/
import LineRules.Text.Quoted

namespace LineRules

/-! ## Literals -/

/-- A delimiter or head whose kind is settled. -/
inductive Literal
  | char (value : Char)
  | string (value : String)
  deriving Repr, DecidableEq, Inhabited

/-- A literal is shown quoted, so a character and a string of one character look different. -/
def Literal.text : Literal → String
  | .char c => Text.quotedChar c
  | .string s => Text.quoted s

/-! ## Kinds -/

/-- The kind of a delimiter as the document names it. -/
inductive LimitKind
  | char
  | string
  | unrecognized (name : String)
  deriving Repr, DecidableEq, Inhabited

namespace LimitKind

/-- The kind with a given name; any other name is an unrecognized kind. -/
def ofName (s : String) : LimitKind :=
  if s = "char" then char else if s = "string" then string else unrecognized s

/-- The name a document gives the kind. -/
def name : LimitKind → String
  | char => "char"
  | string => "string"
  | unrecognized s => s

/-- The kind in a message: an unrecognized one stands in single quotes. -/
def text : LimitKind → String
  | char => "char"
  | string => "string"
  | unrecognized s => "'" ++ s ++ "'"

/-- No known kind goes by an unrecognized name. -/
def Canonical : LimitKind → Prop
  | unrecognized s => s ≠ "char" ∧ s ≠ "string"
  | _ => True

/-- Reading a kind's name gives the kind back. -/
theorem ofName_name {k : LimitKind} (h : k.Canonical) : ofName k.name = k := by
  cases k with
  | char => decide
  | string => decide
  | unrecognized s => simp [ofName, name, h.1, h.2]

end LimitKind

/-! ## Limits -/

/-- A delimiter and its window. A bound of zero is no bound. -/
structure Limit where
  kind : LimitKind
  value : String
  lower : UInt64 := 0
  upper : UInt64 := 0
  /-- The delimiter itself is consumed. -/
  close : Bool := false
  deriving Repr, DecidableEq, Inhabited

namespace Limit

/-- The limit at the next `c`. -/
def ofChar (c : Char) : Limit := { kind := .char, value := String.ofList [c] }

/-- The limit at the next `s`. -/
def ofString (s : String) : Limit := { kind := .string, value := s }

/-- The limit at the next `l`. -/
def ofLiteral : Literal → Limit
  | .char c => ofChar c
  | .string s => ofString s

/-- The limit with another window. -/
def bounded (l : Limit) (lower upper : UInt64) : Limit := { l with lower := lower, upper := upper }

/-- The limit that also consumes its delimiter. -/
def closed (l : Limit) : Limit := { l with close := true }

/-- The delimiter must stand exactly `lower` characters ahead. -/
def isFixed (l : Limit) : Bool := l.lower == l.upper && 0 < l.lower

/-- The delimiter itself. An unrecognized kind has none, and neither has a character limit whose
value is not one character. -/
def literal? (l : Limit) : Option Literal :=
  match l.kind with
  | .string => some (.string l.value)
  | .char =>
    match l.value.toList with
    | [c] => some (.char c)
    | _ => none
  | .unrecognized _ => none

/-- The limit built from a literal has that literal. -/
theorem literal?_ofLiteral (l : Literal) : (ofLiteral l).literal? = some l := by
  cases l <;> simp [ofLiteral, ofChar, ofString, literal?]

end Limit

end LineRules
