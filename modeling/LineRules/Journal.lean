/-
The journal: what a session reports about its course. Every entry is a value; its level and its line
of text are functions of it.
-/
import LineRules.Error
import LineRules.Naming

namespace LineRules

/-- How much an entry matters. -/
inductive Level
  | error
  | warn
  | info
  | debug
  | trace
  deriving Repr, DecidableEq, Inhabited

namespace Level

/-- The higher the rank, the less an entry matters. -/
def rank : Level → Nat
  | error => 1
  | warn => 2
  | info => 3
  | debug => 4
  | trace => 5

/-- The name of a level in a line of the journal. -/
def name : Level → String
  | error => "ERROR"
  | warn => "WARN"
  | info => "INFO"
  | debug => "DEBUG"
  | trace => "TRACE"

end Level

/-- An entry of the journal. -/
inductive Event
  /-- The session starts with these settings. -/
  | settings (policy : NamingPolicy) (keepGoing : Bool) (rules : Nat)
  | composing (rule : String)
  /-- An action is reached when `queued` operations stand ready. -/
  | dispatch (rule action : String) (pos : Pos) (queued : Nat)
  /-- A tolerant skip is passed over because its kind of delimiter is not known. -/
  | skippedPass (rule : String) (pos : Pos) (kind : String)
  | endOfUnnamed (rule : String)
  | endOfNamed (rule name : String)
  | rejected (rule : String) (pos : Pos)
  | committed (rule : String) (ops : Nat)
  | failed (rule : String) (error : RuleError)
  | finished (composed failures skipped : Nat)
  deriving Repr, DecidableEq, Inhabited

namespace Event

/-- How much an entry matters. -/
def level : Event → Level
  | settings .. => .debug
  | composing _ => .info
  | dispatch .. => .debug
  | skippedPass .. => .warn
  | endOfUnnamed _ => .debug
  | endOfNamed .. => .info
  | rejected .. => .debug
  | committed .. => .info
  | failed .. => .debug
  | finished .. => .info

/-- What happened. -/
def message : Event → String
  | settings .. => "session settings"
  | composing _ => "composing rule"
  | dispatch .. => "dispatch"
  | skippedPass .. => "skipping pass with unrecognized delimiter kind"
  | endOfUnnamed _ => "end of anonymous option"
  | endOfNamed .. => "end of option"
  | rejected .. => "rule rejected"
  | committed .. => "rule committed"
  | failed .. => "rule failed"
  | finished .. => "session finished"

/-- The particulars of an entry, by their names and as they are shown. -/
def particulars : Event → List (String × String)
  | settings policy keepGoing rules => [
    ("policy", match policy with | .snake => "Snake" | .camel => "Camel"),
    ("keep_going", if keepGoing then "true" else "false"),
    ("rules", Text.decimal rules)]
  | composing rule => [("rule", rule)]
  | dispatch rule action pos queued =>
    [("rule", rule), ("action", Text.quoted action), ("pos", pos.text),
      ("queued", Text.decimal queued)]
  | skippedPass rule pos kind => [("rule", rule), ("pos", pos.text), ("kind", kind)]
  | endOfUnnamed rule => [("rule", rule)]
  | endOfNamed rule name => [("rule", rule), ("option", name)]
  | rejected rule pos => [
    ("rule", rule),
    ("pos", "Some(Pos \x7b line: " ++ Text.decimal pos.line.toNat ++ ", column: "
      ++ Text.decimal pos.column.toNat ++ " \x7d)")]
  | committed rule ops => [("rule", rule), ("ops", Text.decimal ops)]
  | failed rule error => [("rule", rule), ("error", error.text)]
  | finished composed failures skipped => [
    ("composed", Text.decimal composed),
    ("failed", Text.decimal failures),
    ("skipped", Text.decimal skipped)]

/-- The text of an entry: what happened, then the particulars. -/
def text (e : Event) : String :=
  e.particulars.foldl (fun shown p => shown ++ " " ++ p.1 ++ "=" ++ p.2) e.message

/-- The line of an entry. -/
def line (e : Event) : String := e.level.name ++ " " ++ e.text ++ "\n"

end Event

end LineRules
