/-
The program: it reads the settings and the rule set, runs a session, and shows the plans or only
whether every rule could be composed. It talks to files through an interface, so that it can be run
on a tree of files as well as on a file system.
-/
import LineRules.Command.Arguments
import LineRules.Document.Encode
import LineRules.FileTree
import LineRules.Journal.Filter
import LineRules.Json.Printer
import LineRules.Recorder
import LineRules.Session
import LineRules.Settings

namespace LineRules.Command

/-- What the program shows. -/
inductive Reply
  /-- How the program is used. -/
  | help
  /-- That the program was not used right. -/
  | misuse
  /-- Output, messages and an exit code. -/
  | finished (code : Nat) (out err : String)
  deriving Repr, DecidableEq, Inhabited

/-- Access to files, with effects in `m`. -/
structure Files (m : Type → Type) where
  read : String → m (Except ReadFailure String)
  isFile : String → m Bool

/-- A tree of files, without effects. -/
def Files.ofTree (t : FileTree) : Files Id where
  read := t.read
  isFile := t.isFile

/-! ## Results -/

/-- An error that ends the program. In the form for people it is left out if the program is to be
quiet. -/
def errorText (i : Invocation) (message : String) : String :=
  match i.output with
  | .json => (Json.record [("error", .string message)]).pretty ++ "\n"
  | .text => if i.quiet then "" else "error: " ++ message ++ "\n"

/-- The messages about rules that were not composed. -/
def failuresText (quiet : Bool) (r : Report) : String :=
  r.failures.foldl (fun shown e => shown ++ "rule " ++ e.rule ++ ": " ++ e.text ++ "\n") "" ++
    if 0 < r.skipped ∧ ¬quiet then
      Text.decimal r.skipped ++ " rule(s) not composed after the first failure\n"
    else ""

/-- The rules that were not composed. -/
def failuresJson (r : Report) : Json := .list (r.failures.map RuleError.toJson)

/-- Output and messages of a session whose plans are to be shown. -/
def composeResult (i : Invocation) (s : Session Recorder) : String × String :=
  match i.output with
  | .json =>
    let result := Json.record [
      ("failures", failuresJson s.report),
      ("rules", .list (s.state.plans.map Plan.toJson))]
    (result.pretty ++ "\n", "")
  | .text => (s.state.listing, failuresText i.quiet s.report)

/-- Output and messages of a session that only checks the rules. -/
def checkResult (i : Invocation) (r : Report) : String × String :=
  match i.output with
  | .json =>
    let result := Json.record [
      ("composed", .list (r.composed.map .string)),
      ("failures", failuresJson r),
      ("skipped", .natural (UInt64.ofNat r.skipped))]
    (result.pretty ++ "\n", "")
  | .text =>
    if r.isOk then
      (if i.quiet then "" else "ok: " ++ Text.decimal r.composed.length ++ " rule(s)\n", "")
    else ("", failuresText i.quiet r)

/-- Runs a session over loaded rules. -/
def runSession (i : Invocation) (filter : Journal.Filter) (settings : Settings) (rules : RuleSet) :
    Reply :=
  let policy := i.naming.getD settings.policy
  let keepGoing := i.keepGoing || settings.keepGoing
  let s := Session.run Recorder.emitter policy.normalize keepGoing rules.rules {}
  let journal := .settings policy keepGoing rules.rules.length :: s.journal
  let (out, err) :=
    match i.verb with
    | .compose => composeResult i s
    | .check => checkResult i s.report
  .finished (if s.report.isOk then 0 else 1) out (filter.text journal ++ err)

/-! ## The program -/

/-- The settings file that is used if none is named and there is one. -/
def defaultSettings : String := "lde.toml"

variable {m : Type → Type} [Monad m]

/-- Loads the settings. -/
def loadSettings (files : Files m) (i : Invocation) : m (Except SettingsError Settings) := do
  match i.config with
  | some path => return Settings.load path (← files.read path)
  | none =>
    if ← files.isFile defaultSettings then
      return Settings.load defaultSettings (← files.read defaultSettings)
    else return .ok {}

/-- Runs a command. -/
def runInvocation (files : Files m) (filter : Journal.Filter) (i : Invocation) : m Reply := do
  match ← loadSettings files i with
  | .error e => return .finished 2 "" (errorText i e.message)
  | .ok settings =>
    match RuleSet.load i.file (← files.read i.file) with
    | .error e => return .finished 1 "" (errorText i e.message)
    | .ok rules => return runSession i filter settings rules

/-- The filter of the journal: the one that the environment asks for, if it can be understood, and
else one by level. -/
def filterOf (environment : Option String) (verbose : Bool) : Journal.Filter :=
  (environment.bind Journal.Filter.ofText?).getD
    (.ofLevel (if verbose then .debug else .warn))

/-- The name and the version of the program. -/
def versionText : String := "lde 0.1.0\n"

/-- Runs the program on the words of a command line. -/
def run (files : Files m) (environment : Option String) (arguments : List String) : m Reply :=
  match Request.ofArguments arguments with
  | .help => return .help
  | .misuse => return .misuse
  | .version => return .finished 0 versionText ""
  | .run i => runInvocation files (filterOf environment i.verbose) i

end LineRules.Command
