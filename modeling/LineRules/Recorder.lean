/-
The plan recorder: an emitter that keeps the plan of every committed rule. An abandoned rule leaves
no trace. The recorder checks what it is told: names of committed rules are taken, and scopes are
closed in the order and by the kind in which they were opened.
-/
import LineRules.Emitter
import LineRules.Plan
import LineRules.Tracker

namespace LineRules

/-- The plans committed so far, the plan being recorded, and the kinds of its open scopes, innermost
first. -/
structure Recorder where
  plans : List Plan := []
  pending : Option Plan := none
  scopes : List ScopeKind := []
  deriving Repr, DecidableEq, Inhabited

namespace Recorder

/-- The committed plan of a rule. -/
def plan? (r : Recorder) (name : String) : Option Plan := r.plans.find? (·.name == name)

/-- The listing of all committed plans. -/
def listing (r : Recorder) : String := Plan.listings r.plans

/-- Begins a rule, unless its name is taken. A rule still being recorded is forgotten. -/
def beginRule (name : String) (pos : Pos) (r : Recorder) : Except EmitError Tracker × Recorder :=
  if r.plans.any (·.name == name) then (.error (.ruleExists name), r)
  else (.ok {}, { r with pending := some { name := name, pos := pos, ops := [] }, scopes := [] })

/-- Adds an operation to the plan being recorded, if there is one. -/
def push (op : Op) (r : Recorder) : Recorder :=
  { r with pending := r.pending.map fun p => { p with ops := p.ops ++ [op] } }

/-- Adds an operation to the plan being recorded, which there must be. -/
def record (op : Op) (r : Recorder) : Except EmitError Unit × Recorder :=
  match r.pending with
  | some _ => (.ok (), r.push op)
  | none => (.error .noActiveRule, r)

/-- Records the opening of a scope, which is then the innermost one. -/
def openScope (kind : ScopeKind) (op : Op) (r : Recorder) : Except EmitError Unit × Recorder :=
  match r.record op with
  | (.ok (), r) => (.ok (), { r with scopes := kind :: r.scopes })
  | refused => refused

/-- Closes the innermost scope, which must be of the given kind, and records that. -/
def closeScope (kind : ScopeKind) (op : Op) (r : Recorder) : Except EmitError Unit × Recorder :=
  if r.scopes.head? ≠ some kind then (.error .unbalancedScope, r)
  else ({ r with scopes := r.scopes.tail } : Recorder).record op

/-- Commits the plan being recorded, all of whose scopes must be closed. -/
def finishRule (r : Recorder) : Except EmitError Unit × Recorder :=
  if !r.scopes.isEmpty then (.error .unbalancedScope, r)
  else
    match r.pending with
    | some plan => (.ok (), { r with plans := r.plans ++ [plan], pending := none })
    | none => (.error .noActiveRule, r)

/-- Forgets the plan being recorded. -/
def abandonRule (r : Recorder) : Recorder := { r with pending := none, scopes := [] }

/-- The recorder as an emitter. Every method records the operation that its arguments make up. The
trackers do not look at the plans. -/
def emitter : Emitter Recorder Tracker where
  beginRule := beginRule
  register path s :=
    let (answer, tracker) := s.1.register path
    (answer, (tracker, s.2))
  openUnnamedScope pos := openScope .unnamed (.openUnnamed pos)
  closeUnnamedScope := closeScope .unnamed .closeUnnamed
  openNamedScope name pos := openScope .named (.openNamed name pos)
  closeNamedScope := closeScope .named .closeNamed
  checkpoint path := push (.checkpoint path)
  atEnd := push .atEnd
  stress := push .stress
  head literal optional := push (.head literal optional)
  passFirst count := push (.passFirst count)
  lookupFixed literal offset ignore := push (.lookupFixed literal offset ignore)
  lookup literal lower upper close ignore := push (.lookup literal lower upper close ignore)
  addField name type pos := record (.declareField name type pos)
  takeBefore name type literal lower upper close orRest :=
    record (.takeBefore name type literal lower upper close orRest)
  takeRest name type := record (.takeRest name type)
  finishRule := finishRule
  abandonRule := abandonRule

end Recorder

end LineRules
