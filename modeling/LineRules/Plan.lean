/-
Plans: the committed program of a rule, and its listing. The listing has a header line and one line
per operation, indented by the number of areas the operation stands in; an opening line and its
closing line stand outside their own area.
-/
import LineRules.Op

namespace LineRules

/-- The program of one committed rule. -/
structure Plan where
  name : String
  pos : Pos
  ops : List Op
  deriving Repr, DecidableEq, Inhabited

namespace Plan

/-- The depth at which an operation is shown, when `depth` areas stand open before it. -/
def shownDepth (depth : Nat) : Op → Nat
  | .closeUnnamed | .closeNamed => depth - 1
  | _ => depth

/-- The number of areas that stand open after an operation. -/
def depthAfter (depth : Nat) : Op → Nat
  | .openUnnamed _ | .openNamed _ _ => depth + 1
  | .closeUnnamed | .closeNamed => depth - 1
  | _ => depth

/-- A line of a listing, two blanks for each level. -/
def lineText (depth : Nat) (op : Op) : String :=
  String.ofList (List.replicate (2 * depth) ' ') ++ op.text ++ "\n"

/-- The lines of a program that starts at `depth`. -/
def linesText (depth : Nat) : List Op → String
  | [] => ""
  | op :: rest => lineText (shownDepth depth op) op ++ linesText (depthAfter depth op) rest

/-- The listing of a plan. -/
def listing (p : Plan) : String :=
  "rule " ++ p.name ++ " (" ++ p.pos.text ++ ")\n" ++ linesText 1 p.ops

/-- The listings of several plans, with an empty line between two of them. -/
def listings : List Plan → String
  | [] => ""
  | [p] => p.listing
  | p :: rest => p.listing ++ "\n" ++ listings rest

end Plan

end LineRules
