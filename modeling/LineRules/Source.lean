/-
Loading rule sets from files. A file may be missing or unreadable, or its text may be no rule set;
in either case the error names the path as it was given.
-/
import LineRules.Document.RuleSet

namespace LineRules

/-- Why a file cannot be read. -/
inductive ReadFailure
  | notFound
  | isDirectory
  | notDirectory
  | nameTooLong
  /-- The file is not text in UTF-8. -/
  | notText
  /-- There is no such file among those in memory. -/
  | notInMemory (path : String)
  /-- Whatever else a file system may say. -/
  | other (reason : String)
  deriving Repr, DecidableEq, Inhabited

/-- The wording of a failure. -/
def ReadFailure.message : ReadFailure → String
  | notFound => "No such file or directory (os error 2)"
  | isDirectory => "Is a directory (os error 21)"
  | notDirectory => "Not a directory (os error 20)"
  | nameTooLong => "File name too long (os error 36)"
  | notText => "stream did not contain valid UTF-8"
  | notInMemory path => "file not found in memory: " ++ path
  | other reason => reason

/-- Why a rule set cannot be loaded. -/
inductive LoadError
  | unreadable (path : String) (reason : ReadFailure)
  | undecodable (path : String) (error : Document.DecodeError)
  deriving Repr, DecidableEq, Inhabited

/-- The wording of an error. What is wrong with a document is not said. -/
def LoadError.message : LoadError → String
  | unreadable path reason => "error reading '" ++ path ++ "': " ++ reason.message
  | undecodable path _ => "error parsing rules in '" ++ path ++ "'"

/-- The rule set in a file, given what reading the file gave. -/
def RuleSet.load (path : String) : Except ReadFailure String → Except LoadError RuleSet
  | .error reason => .error (.unreadable path reason)
  | .ok text =>
    match RuleSet.ofText text with
    | .ok rules => .ok rules
    | .error e => .error (.undecodable path e)

/-! ## Files in memory -/

namespace PathName

/-- The pieces of a text between slashes. -/
def pieces : List Char → List (List Char)
  | [] => [[]]
  | c :: rest =>
    if c = '/' then [] :: pieces rest
    else
      match pieces rest with
      | [] => [[c]]
      | piece :: others => (c :: piece) :: others

/-- The pieces that name something: neither empty nor a single dot. -/
def names (path : List Char) : List (List Char) :=
  (pieces path).filter fun piece => !piece.isEmpty && piece ≠ ['.']

/-- What two paths have in common that lead to the same file in memory: whether they start at the
root, whether they start with a dot, and the names on the way. -/
def key (path : String) : Bool × Bool × List (List Char) :=
  let cs := path.toList
  (cs.head? = some '/', (pieces cs).head? = some ['.'], names cs)

end PathName

/-- Files in memory: paths and texts. -/
abbrev MemoryFiles := List (String × String)

/-- Reads a file in memory. Of two files with the same path the later one counts. -/
def MemoryFiles.read (files : MemoryFiles) (path : String) : Except ReadFailure String :=
  match files.reverse.find? fun f => PathName.key f.1 = PathName.key path with
  | some (_, text) => .ok text
  | none => .error (.notInMemory path)

end LineRules
