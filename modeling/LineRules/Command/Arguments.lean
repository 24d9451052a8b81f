/-
The command line. Global options may stand before or after the command; of an option given at both
places the one after the command counts, and an option given twice at one place is misuse. The words
are read from left to right, and the first that asks for help or the version, or that is misuse,
decides.
-/
import LineRules.Naming

namespace LineRules.Command

/-- The form in which results are shown. -/
inductive OutputForm
  | text
  | json
  deriving Repr, DecidableEq, Inhabited

/-- The form with a given name. -/
def OutputForm.ofName? (s : String) : Option OutputForm :=
  if s = "text" then some .text else if s = "json" then some .json else none

/-- What is to be done with the rules. -/
inductive Verb
  | compose
  | check
  deriving Repr, DecidableEq, Inhabited

/-- The command with a given name. -/
def Verb.ofName? (s : String) : Option Verb :=
  if s = "compose" then some .compose else if s = "check" then some .check else none

/-- A command with its options. -/
structure Invocation where
  verb : Verb
  file : String
  naming : Option NamingPolicy := none
  keepGoing : Bool := false
  output : OutputForm := .text
  quiet : Bool := false
  verbose : Bool := false
  config : Option String := none
  deriving Repr, DecidableEq, Inhabited

/-- What a command line asks for. -/
inductive Request
  | help
  | version
  | misuse
  | run (invocation : Invocation)
  deriving Repr, DecidableEq, Inhabited

/-! ## Options -/

/-- The options with a value. -/
inductive Valued
  | output
  | config
  | naming
  deriving Repr, DecidableEq

/-- The options without a value. -/
inductive Switch
  | quiet
  | verbose
  | keepGoing
  | help
  | version
  deriving Repr, DecidableEq

/-- Before or after the command. -/
inductive Section
  | front
  | back
  deriving Repr, DecidableEq

/-- An option by its long name. Some stand only before the command and some only after it. -/
def longOption? (s : Section) (name : String) : Option (Valued ⊕ Switch) :=
  match name with
  | "output" => some (.inl .output)
  | "config" => some (.inl .config)
  | "quiet" => some (.inr .quiet)
  | "verbose" => some (.inr .verbose)
  | "help" => some (.inr .help)
  | "version" => if s = .front then some (.inr .version) else none
  | "naming" => if s = .back then some (.inl .naming) else none
  | "keep-going" => if s = .back then some (.inr .keepGoing) else none
  | _ => none

/-- An option by its letter. -/
def shortOption? (s : Section) (c : Char) : Option Switch :=
  if c = 'v' then some .verbose
  else if c = 'h' then some .help
  else if c = 'V' ∧ s = .front then some .version
  else none

/-- The options given at one place. -/
structure Given where
  output : Option OutputForm := none
  quiet : Bool := false
  verbose : Bool := false
  keepGoing : Bool := false
  config : Option String := none
  naming : Option NamingPolicy := none
  file : Option String := none
  deriving Repr, DecidableEq, Inhabited

namespace Given

/-- Sets an option with a value, which must be acceptable and new. Paths are not empty. -/
def setValue (g : Given) (value : String) : Valued → Except Request Given
  | .output =>
    match g.output, OutputForm.ofName? value with
    | none, some form => .ok { g with output := some form }
    | _, _ => .error .misuse
  | .config =>
    if g.config.isSome ∨ value = "" then .error .misuse
    else .ok { g with config := some value }
  | .naming =>
    match g.naming, NamingPolicy.ofName? value with
    | none, some policy => .ok { g with naming := some policy }
    | _, _ => .error .misuse

/-- Sets an option without a value, which must be new. -/
def setSwitch (g : Given) : Switch → Except Request Given
  | .quiet => if g.quiet then .error .misuse else .ok { g with quiet := true }
  | .verbose => if g.verbose then .error .misuse else .ok { g with verbose := true }
  | .keepGoing => if g.keepGoing then .error .misuse else .ok { g with keepGoing := true }
  | .help => .error .help
  | .version => .error .version

/-- Sets the options that a cluster of letters gives. -/
def setLetters (s : Section) (g : Given) : List Char → Except Request Given
  | [] => .ok g
  | c :: rest =>
    match shortOption? s c with
    | some o => do
      let g ← g.setSwitch o
      setLetters s g rest
    | none => .error .misuse

/-- Sets the file, which is given once. -/
def setFile (g : Given) (path : String) : Except Request Given :=
  if g.file.isSome ∨ path = "" then .error .misuse else .ok { g with file := some path }

end Given

/-! ## Words -/

/-- What a word of the command line looks like. -/
inductive Word
  /-- Two dashes: what follows is no option. -/
  | separator
  | long (name : String) (value : Option String)
  | letters (cs : List Char)
  | plain (s : String)
  deriving Repr, DecidableEq

/-- Tells a word from its dashes. A single dash is a plain word. -/
def Word.ofString (s : String) : Word :=
  match s.toList with
  | ['-', '-'] => .separator
  | '-' :: '-' :: cs =>
    let name := String.ofList (cs.takeWhile (· != '='))
    match cs.dropWhile (· != '=') with
    | [] => .long name none
    | _ :: value => .long name (some (String.ofList value))
  | '-' :: c :: cs => .letters (c :: cs)
  | _ => .plain s

/-! ## Reading -/

/-- How far the options of a section have been read. A value in a word of its own is looked at only
when the next option or the end of the section comes. -/
structure Progress where
  given : Given := {}
  /-- An option that still lacks its value. -/
  awaiting : Option Valued := none
  /-- An option with a value that has not been looked at. -/
  late : Option (Valued × String) := none
  deriving Repr, DecidableEq, Inhabited

namespace Progress

/-- Looks at the value that has not been looked at. -/
def settle (p : Progress) : Except Request Progress :=
  match p.awaiting, p.late with
  | some _, _ => .error .misuse
  | none, some (o, v) => do
    let given ← p.given.setValue v o
    return { given := given }
  | none, none => .ok p

/-- Takes a word that looks like an option. -/
def takeOption (s : Section) (p : Progress) (w : Word) : Except Request Progress := do
  let p ← p.settle
  match w with
  | .long name value =>
    match longOption? s name, value with
    | some (.inl o), some v => return { p with given := ← p.given.setValue v o }
    | some (.inl o), none => return { p with awaiting := some o }
    | some (.inr o), none => return { p with given := ← p.given.setSwitch o }
    | _, _ => throw .misuse
  | .letters cs => return { p with given := ← p.given.setLetters s cs }
  | _ => throw .misuse

/-- Takes the path of the file. -/
def takeFile (p : Progress) (path : String) : Except Request Progress := do
  let p ← p.settle
  return { p with given := ← p.given.setFile path }

end Progress

/-- Reads the words after the command. After a separator every word is a path. -/
def readBack (separated : Bool) (p : Progress) : List String → Except Request Given
  | [] => do return (← p.settle).given
  | w :: rest => do
    if separated then readBack separated (← p.takeFile w) rest
    else
      match p.awaiting, Word.ofString w with
      | some o, .plain v => readBack separated { p with awaiting := none, late := some (o, v) } rest
      | none, .plain path => readBack separated (← p.takeFile path) rest
      | _, .separator => readBack true p rest
      | _, word => readBack separated (← p.takeOption .back word) rest

/-- The command with the options of both sections. -/
def combine (verb : Verb) (front back : Given) : Request :=
  match back.file with
  | none => .misuse
  | some file =>
    .run {
      verb := verb
      file := file
      naming := back.naming
      keepGoing := back.keepGoing
      output := (back.output.or front.output).getD .text
      quiet := back.quiet || front.quiet
      verbose := back.verbose || front.verbose
      config := back.config.or front.config }

/-- Help may be asked for about a command, or about help itself. -/
def readHelp : List String → Request
  | [] => .help
  | [topic] => if topic = "help" ∨ (Verb.ofName? topic).isSome then .help else .misuse
  | _ => .misuse

/-- Reads the words up to the command and those after it. The last value before the command is
looked at only once the words after the command have been read. -/
def readFront (p : Progress) : List String → Request
  | [] => .misuse
  | w :: rest =>
    match p.awaiting, Word.ofString w with
    | some o, .plain v => readFront { p with awaiting := none, late := some (o, v) } rest
    | none, .plain "help" => readHelp rest
    | none, .plain name =>
      match Verb.ofName? name with
      | none => .misuse
      | some verb =>
        match readBack false {} rest, p.settle with
        | .ok back, .ok front => combine verb front.given back
        | .error r, _ => r
        | _, .error r => r
    | _, word =>
      match p.takeOption .front word with
      | .ok p => readFront p rest
      | .error r => r

/-- What a command line asks for. -/
def Request.ofArguments (arguments : List String) : Request := readFront {} arguments

end LineRules.Command
