/-
The command line program.
-/
import LineRules.Command

open LineRules LineRules.Command

/-- How the program is used. -/
def usage : String :=
  "Line data extraction rule composer\n\n" ++
  "Usage: lde [OPTIONS] compose|check FILE [--naming snake|camel] [--keep-going]\n\n" ++
  "Commands:\n" ++
  "  compose  Compose a JSON rule set and print the operation plan\n" ++
  "  check    Validate a JSON rule set without printing the plan\n" ++
  "  help     Print this message\n\n" ++
  "Options:\n" ++
  "  --output text|json  Output format\n" ++
  "  --quiet             Suppress non-essential output\n" ++
  "  -v, --verbose       Log composition steps to stderr\n" ++
  "  --config PATH       Path to a configuration file\n" ++
  "  --naming POLICY     Identifier policy fields and options must follow\n" ++
  "  --keep-going        Keep composing the remaining rules after a failure\n" ++
  "  -h, --help          Print help\n" ++
  "  -V, --version       Print version\n"

/-- Why the file system does not give a file. -/
def failureOf : IO.Error → ReadFailure
  | .noFileOrDirectory .. => .notFound
  | .inappropriateType _ 20 _ => .notDirectory
  | .inappropriateType _ 21 _ => .isDirectory
  | .invalidArgument _ 36 _ => .nameTooLong
  | e => .other (toString e)

/-- Reads a file. -/
def readFile (path : String) : IO (Except ReadFailure String) := do
  try
    match String.fromUTF8? (← IO.FS.readBinFile path) with
    | some text => return .ok text
    | none => return .error .notText
  catch e => return .error (failureOf e)

/-- The file system. -/
def fileSystem : Files IO where
  read := readFile
  isFile path := do
    match ← readFile path with
    | .ok _ | .error .notText | .error (.other _) => return true
    | .error _ => return false

/-- Runs the program. -/
def main (arguments : List String) : IO UInt32 := do
  match ← run fileSystem (← IO.getEnv "RUST_LOG") arguments with
  | .help =>
    IO.print usage
    return 0
  | .misuse =>
    IO.eprint usage
    return 2
  | .finished code out err =>
    IO.print out
    IO.eprint err
    return code.toUInt32
