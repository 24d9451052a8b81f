/-
Sessions: the rules of a rule set, composed one after another with one emitter. A failed rule does
not touch the others; unless told to keep going, a session stops at the first failure.
-/
import LineRules.Compose

namespace LineRules

/-- The outcome of a session. -/
structure Report where
  /-- The names of the committed rules, in order. -/
  composed : List String := []
  failures : List RuleError := []
  /-- How many rules were not reached. -/
  skipped : Nat := 0
  deriving Repr, DecidableEq, Inhabited

/-- Every rule was committed. -/
def Report.isOk (r : Report) : Bool := r.failures.isEmpty

/-- A session that is over: its report, the emitter's state, and the journal. -/
structure Session (σ : Type) where
  report : Report
  state : σ
  journal : List Event

variable {σ γ : Type}

namespace Session

/-- The session in which a rule of this name was committed first. -/
def afterSuccess (rule : String) (journal : List Event) (s : Session σ) : Session σ :=
  { s with
    report := { s.report with composed := rule :: s.report.composed }
    journal := journal ++ s.journal }

/-- The session in which a rule failed first. -/
def afterFailure (error : RuleError) (journal : List Event) (s : Session σ) : Session σ :=
  { s with
    report := { s.report with failures := error :: s.report.failures }
    journal := journal ++ s.journal }

/-- Composes rules in order. -/
def visit (e : Emitter σ γ) (normalize : String → String) (keepGoing : Bool) :
    List Rule → σ → Session σ
  | [], s => { report := {}, state := s, journal := [] }
  | rule :: rest, s =>
    let one := compose e normalize rule s
    match one.result with
    | .ok _ => afterSuccess rule.name one.journal (visit e normalize keepGoing rest one.state)
    | .error err =>
      let journal := one.journal ++ [.failed rule.name err]
      if keepGoing then afterFailure err journal (visit e normalize keepGoing rest one.state)
      else
        { report := { failures := [err], skipped := rest.length }
          state := one.state
          journal := journal }

/-- Composes the rules of a session. -/
def run (e : Emitter σ γ) (normalize : String → String) (keepGoing : Bool) (rules : List Rule)
    (s : σ) : Session σ :=
  let all := visit e normalize keepGoing rules s
  let finished :=
    Event.finished all.report.composed.length all.report.failures.length all.report.skipped
  { all with journal := all.journal ++ [finished] }

end Session

end LineRules
