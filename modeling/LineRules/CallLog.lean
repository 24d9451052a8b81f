/-
The call log: an emitter that writes down every call it gets and refuses the calls that a script
names. It shows how a session talks to its emitter, and what a session does when it is refused. The
log does not look at the rules themselves: it takes every name and every path.
-/
import LineRules.Emitter

namespace LineRules

/-- A call to an emitter. -/
inductive Call
  | beginRule (name : String) (pos : Pos)
  | register (path : String)
  | perform (op : Op)
  | finishRule
  | abandonRule
  deriving Repr, DecidableEq, Inhabited

namespace Call

/-- The name under which a script refuses a call. Calls that nobody may refuse have none. -/
def name? : Call → Option String
  | beginRule _ _ => some "begin_rule"
  | register _ => some "register"
  | perform (.openUnnamed _) => some "open_unnamed_scope"
  | perform .closeUnnamed => some "close_unnamed_scope"
  | perform (.openNamed _ _) => some "open_named_scope"
  | perform .closeNamed => some "close_named_scope"
  | perform (.declareField ..) => some "add_field"
  | perform (.takeBefore ..) => some "take_before"
  | perform (.takeRest ..) => some "take_rest"
  | perform _ => none
  | finishRule => some "finish_rule"
  | abandonRule => none

/-- The name or path that a call is about, if any. -/
def argument : Call → String
  | beginRule name _ => name
  | register path => path
  | perform (.openNamed name _) => name
  | perform (.declareField name _ _) => name
  | perform (.takeBefore name _ _ _ _ _ _) => name
  | perform (.takeRest name _) => name
  | _ => ""

end Call

/-- The error with which a script refuses a call. -/
inductive RefusalCause
  | ruleExists
  | scopeReentered
  | unbalancedScope
  | noActiveRule
  | other
  deriving Repr, DecidableEq, Inhabited

/-- An order to refuse a call. -/
structure Refusal where
  call : String
  /-- Which of the calls of this name, counted from one; zero stands for all of them. -/
  nth : Nat := 0
  /-- Only calls about this name or path. -/
  argument : Option String := none
  cause : RefusalCause := .other
  deriving Repr, DecidableEq, Inhabited

/-- The calls so far, in order. -/
abbrev CallLog := List Call

/-- How a call log behaves. -/
structure Script where
  refusals : List Refusal := []
  /-- The ends of rules are neither written down nor refused. -/
  plain : Bool := false
  deriving Repr, DecidableEq, Inhabited

namespace Script

/-- How many calls of a given name are in a log. -/
def count (log : CallLog) (name : String) : Nat := log.countP (·.name? == some name)

/-- An order to refuse applies to the latest call of a log. -/
def applies (log : CallLog) (call : Call) (r : Refusal) : Bool :=
  call.name? == some r.call && (r.nth == 0 || r.nth == count log r.call) &&
    (r.argument.isNone || r.argument == some call.argument)

/-- The error with which an order refuses a call. -/
def error (call : Call) (r : Refusal) : EmitError :=
  match r.cause with
  | .ruleExists => .ruleExists call.argument
  | .scopeReentered => .scopeReentered call.argument
  | .unbalancedScope => .unbalancedScope
  | .noActiveRule => .noActiveRule
  | .other => .rejected (r.call ++ " refused")

/-- Writes a call down and answers it. The first order that applies decides. -/
def answer (s : Script) (call : Call) (log : CallLog) : Except EmitError Unit × CallLog :=
  let log := log ++ [call]
  match s.refusals.find? (applies log call) with
  | some r => (.error (error call r), log)
  | none => (.ok (), log)

/-- The call log as an emitter. -/
def emitter (s : Script) : Emitter CallLog Unit where
  beginRule name pos log := s.answer (.beginRule name pos) log
  register path state :=
    let (verdict, log) := s.answer (.register path) state.2
    (verdict, ((), log))
  openUnnamedScope pos := s.answer (.perform (.openUnnamed pos))
  closeUnnamedScope := s.answer (.perform .closeUnnamed)
  openNamedScope name pos := s.answer (.perform (.openNamed name pos))
  closeNamedScope := s.answer (.perform .closeNamed)
  checkpoint path log := log ++ [.perform (.checkpoint path)]
  atEnd log := log ++ [.perform .atEnd]
  stress log := log ++ [.perform .stress]
  head literal optional log := log ++ [.perform (.head literal optional)]
  passFirst count log := log ++ [.perform (.passFirst count)]
  lookupFixed literal offset ignore log := log ++ [.perform (.lookupFixed literal offset ignore)]
  lookup literal lower upper close ignore log := log ++ [.perform (.lookup literal lower upper close ignore)]
  addField name type pos := s.answer (.perform (.declareField name type pos))
  takeBefore name type literal lower upper close orRest :=
    s.answer (.perform (.takeBefore name type literal lower upper close orRest))
  takeRest name type := s.answer (.perform (.takeRest name type))
  finishRule log := if s.plain then (.ok (), log) else s.answer .finishRule log
  abandonRule log := if s.plain then log else log ++ [.abandonRule]

end Script

end LineRules
