/-
What can go wrong between a rule and its plan: an emitter refuses a call, or an action breaks a rule
of the language. An error is a cause; its wording is in `message`.
-/
import LineRules.Field
import LineRules.Limit

namespace LineRules

/-- Why an emitter refuses a call. -/
inductive EmitError
  /-- A rule of this name is committed already. -/
  | ruleExists (name : String)
  /-- The path lies in a scope that the rule has left. -/
  | scopeReentered (path : String)
  /-- The call closes no open scope of its kind, or ends a rule whose scopes are not all closed. -/
  | unbalancedScope
  /-- No rule has been begun. -/
  | noActiveRule
  /-- A reason of the emitter's own. -/
  | rejected (reason : String)
  deriving Repr, DecidableEq, Inhabited

namespace EmitError

/-- The wording of an error. -/
def message : EmitError → String
  | ruleExists name => "rule '" ++ name ++ "' is already defined"
  | scopeReentered path => "'" ++ path ++ "' is re-entered after its scope was left"
  | unbalancedScope => "no open scope to close"
  | noActiveRule => "no rule is being composed"
  | rejected reason => reason

/-- The name of the class of an error. -/
def code : EmitError → String
  | ruleExists _ => "rule_exists"
  | scopeReentered _ => "scope_reentered"
  | unbalancedScope => "unbalanced_scope"
  | noActiveRule => "no_active_rule"
  | rejected _ => "rejected"

end EmitError

/-- What an action may not do inside an unnamed area. -/
inductive Forbidden
  | namedArea
  | take
  | takeRest
  deriving Repr, DecidableEq, Inhabited

/-- What is forbidden, in a message. -/
def Forbidden.text : Forbidden → String
  | namedArea => "create named optional area"
  | take => "take"
  | takeRest => "take the rest"

/-- What a name is the name of. -/
inductive Named
  | option
  | field
  deriving Repr, DecidableEq, Inhabited

/-- What is named, in a message. -/
def Named.text : Named → String
  | option => "option"
  | field => "field"

/-- Why a rule is not composed. -/
inductive ComposeError
  /-- The action may not stand in an unnamed area. -/
  | scopeViolation (what : Forbidden)
  /-- The name is not what the naming policy makes of it. -/
  | invalidIdentifier (what : Named) (name expected : String)
  /-- The path is that of a field declared before, of type `type`. -/
  | duplicateField (path : String) (type : FieldType)
  /-- The limit has no literal. -/
  | malformedLimit (action : String) (kind : LimitKind) (value : String)
  /-- The checkpoint of the action was refused. -/
  | checkpointViolation (error : EmitError)
  /-- The emitter refused the rule or one of its operations. -/
  | emitterRejection (error : EmitError)
  deriving Repr, DecidableEq, Inhabited

namespace ComposeError

/-- The name of the class of an error. -/
def code : ComposeError → String
  | scopeViolation _ => "scope_violation"
  | invalidIdentifier .. => "invalid_identifier"
  | duplicateField .. => "duplicate_field"
  | malformedLimit .. => "malformed_limit"
  | checkpointViolation _ => "checkpoint_violation"
  | emitterRejection _ => "emitter_rejection"

/-- The wording of an error. -/
def message : ComposeError → String
  | scopeViolation what => "cannot " ++ what.text ++ " while being in anonymous area"
  | invalidIdentifier what name expected =>
    "wrong " ++ what.text ++ " identifier " ++ name ++ ", must be " ++ expected
  | duplicateField path type =>
    "field " ++ path ++ " of type " ++ type.name ++ " is already declared"
  | malformedLimit action kind value =>
    action ++ ": integrity error, unexpected delimiter " ++ kind.text ++ " with value "
      ++ Text.quoted value
  | checkpointViolation error => "checkpoint rejected: " ++ error.message
  | emitterRejection error => error.message

end ComposeError

/-- The failure of a rule, located at the token to blame. -/
structure RuleError where
  rule : String
  pos : Pos
  cause : ComposeError
  deriving Repr, DecidableEq, Inhabited

/-- A failure is shown with its position in front. -/
def RuleError.text (e : RuleError) : String := e.pos.text ++ ": " ++ e.cause.message

end LineRules
