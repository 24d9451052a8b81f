/-
Extraction rules. A rule is a tree of actions that run one after another over a line of input.
Optional areas nest: an unnamed area only skips, a named one qualifies the fields captured in it.
-/
import LineRules.Field
import LineRules.Limit

namespace LineRules

/-! ## Actions -/

/-- An action without a body. The flags `optional`, `ignore` and `orRest` make an action tolerant:
it passes over a missing delimiter instead of failing. -/
inductive Step
  /-- The line must be used up here. -/
  | atEnd
  /-- From here on a mismatch is an error. -/
  | errorOnMismatch
  /-- The line goes on with `literal`. -/
  | head (literal : Literal) (optional : Bool)
  /-- Skip `count` characters. -/
  | passFirst (count : UInt64)
  /-- Skip up to the limit. -/
  | passUntil (limit : Limit) (ignore : Bool)
  /-- Capture up to the limit, or to the end of the line if `orRest`. -/
  | take (field : Field) (limit : Limit) (orRest : Bool)
  /-- Capture the rest of the line. -/
  | takeRest (field : Field)
  deriving Repr, DecidableEq, Inhabited

/-- An action and the position of its token. -/
inductive Action
  /-- An optional area without a name, in which nothing may be captured. -/
  | unnamed (pos : Pos) (body : List Action)
  /-- An optional area whose captures live under its name. -/
  | named (pos : Pos) (name : String) (body : List Action)
  | step (pos : Pos) (step : Step)
  deriving Repr, Inhabited

/-- The name of an action's kind, in documents and messages. -/
def Step.kind : Step → String
  | .atEnd => "at_end"
  | .errorOnMismatch => "error_on_mismatch"
  | .head (.char _) true => "may_be_start_char"
  | .head (.string _) true => "may_be_start_string"
  | .head (.char _) false => "start_char"
  | .head (.string _) false => "start_string"
  | .passFirst _ => "pass_first"
  | .passUntil _ false => "pass_until"
  | .passUntil _ true => "pass_until_or_ignore"
  | .take _ _ false => "take"
  | .takeRest _ => "take_rest"
  | .take _ _ true => "take_until_or_rest"

namespace Action

@[inherit_doc Step.kind]
def kind : Action → String
  | unnamed _ _ => "anonymous_option"
  | named _ _ _ => "named_optional"
  | step _ s => s.kind

/-- The position of an action's token. -/
def pos : Action → Pos
  | unnamed p _ => p
  | named p _ _ => p
  | step p _ => p

end Action

/-! ## Rules -/

/-- A rule, composed on its own. -/
structure Rule where
  name : String
  pos : Pos := {}
  actions : List Action := []
  deriving Repr, Inhabited

/-- The rules of one document. -/
structure RuleSet where
  rules : List Rule := []
  deriving Repr, Inhabited

end LineRules
