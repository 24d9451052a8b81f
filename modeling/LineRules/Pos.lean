/-
Positions in the text a rule set was written in.
-/
import LineRules.Text.Decimal

namespace LineRules

/-- Line and column of a token, counted from one. An item that came from no text stands at 0:0. -/
structure Pos where
  line : UInt32 := 0
  column : UInt32 := 0
  deriving Repr, DecidableEq, Inhabited

/-- A position is shown as line, colon, column. -/
def Pos.text (p : Pos) : String :=
  Text.decimal p.line.toNat ++ ":" ++ Text.decimal p.column.toNat

end LineRules
