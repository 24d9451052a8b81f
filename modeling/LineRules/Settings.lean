/-
The settings file, a TOML document with two sections: `[naming]` with the naming policy and
`[compose]` with whether a session keeps going after a failure. Settings that are not given have
defaults. No other section is allowed, while settings that are not known are passed over.
-/
import LineRules.Naming
import LineRules.Source
import LineRules.Toml.Reader

namespace LineRules

/-- What a settings file decides. -/
structure Settings where
  policy : NamingPolicy := .snake
  keepGoing : Bool := false
  deriving Repr, DecidableEq, Inhabited

namespace Settings

/-- A section with one setting. A list stands for a section that gives the setting first, and a date
or time for a section without settings. -/
def ofSection {α : Type} (default : α) (key : String) (decode : Toml → Option α) : Toml → Option α
  | .table _ entries =>
    match entries.lookup key with
    | some v => decode v
    | none => some default
  | .array items | .tables items =>
    match items with
    | v :: _ => decode v
    | [] => some default
  | .moment => some default
  | _ => none

/-- A value with nothing in it. -/
def isEmpty : Toml → Bool
  | .table _ [] => true
  | .array [] => true
  | .tables [] => true
  | _ => false

/-- A naming policy is its name, or a table with this one name and nothing under it. -/
def decodePolicy : Toml → Option NamingPolicy
  | .string s => NamingPolicy.ofName? s
  | .table _ [(s, v)] => if isEmpty v then NamingPolicy.ofName? s else none
  | _ => none

/-- A truth value. -/
def decodeKeepGoing : Toml → Option Bool
  | .boolean b => some b
  | _ => none

/-- Adds a section to the settings. -/
def addSection (s : Settings) (name : String) (v : Toml) : Option Settings := do
  if name = "naming" then return { s with policy := ← ofSection .snake "policy" decodePolicy v }
  else if name = "compose" then
    return { s with keepGoing := ← ofSection false "keep_going" decodeKeepGoing v }
  else none

/-- The settings that a text gives. -/
def ofText (text : String) : Option Settings := do
  let entries ← Toml.read text
  entries.foldlM (fun s e => s.addSection e.1 e.2) {}

end Settings

/-- Why settings cannot be loaded. -/
inductive SettingsError
  | unreadable (path : String) (reason : ReadFailure)
  | undecodable (path : String)
  deriving Repr, DecidableEq, Inhabited

/-- The wording of an error. -/
def SettingsError.message : SettingsError → String
  | unreadable path reason => "could not read '" ++ path ++ "': " ++ reason.message
  | undecodable path => "could not parse '" ++ path ++ "'"

/-- The settings in a file, given what reading the file gave. -/
def Settings.load (path : String) : Except ReadFailure String → Except SettingsError Settings
  | .error reason => .error (.unreadable path reason)
  | .ok text =>
    match Settings.ofText text with
    | some s => .ok s
    | none => .error (.undecodable path)

end LineRules
