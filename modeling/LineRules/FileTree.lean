/-
A tree of files, seen from a working directory. Paths are followed name by name: every name but the
last must lead to a directory. The directories above the working directory are there, but nothing in
them has a name. At the root there are a few directories that every system has, and the empty file
`/dev/null`.
-/
import LineRules.Source
import LineRules.Text.Bytes

namespace LineRules

/-- Files and directories below the working directory, by the names that lead to them. The
directories that lead to a file are there, too. -/
structure FileTree where
  files : List (List (List Char) × ByteArray) := []
  directories : List (List (List Char)) := []

namespace FileTree

/-- Where a path leads: to names below the working directory, to a directory above it, or to names
below the root. -/
inductive Place
  | inside (names : List (List Char))
  | above
  | system (names : List (List Char))
  deriving Repr, DecidableEq

/-- What stands at a place. -/
inductive Node
  | file (content : ByteArray)
  | directory

/-! ## Names -/

/-- The longest path that may be followed, in bytes. -/
def maxPath : Nat := 4095

/-- The longest name that may be looked up in a directory, in bytes. -/
def maxName : Nat := 255

/-- What names below the working directory lead to. -/
def insideNode? (t : FileTree) (names : List (List Char)) : Option Node :=
  match t.files.find? (·.1 = names) with
  | some (_, content) => some (.file content)
  | none =>
    if names.isEmpty || t.directories.any (names.isPrefixOf ·)
        || t.files.any (names.isPrefixOf ·.1) then some .directory
    else none

/-- What names below the root lead to, as far as it is the same on every system. -/
def systemNode? (names : List (List Char)) : Option Node :=
  match names.map String.ofList with
  | [] | ["dev"] | ["etc"] | ["tmp"] | ["usr"] => some .directory
  | ["dev", "null"] => some (.file ByteArray.empty)
  | _ => none

/-- What stands at a place, if anything does. -/
def node? (t : FileTree) : Place → Option Node
  | .inside names => t.insideNode? names
  | .above => some .directory
  | .system names => systemNode? names

/-! ## Paths -/

/-- The directory in which a place lies. The root lies in itself. -/
def Place.parent : Place → Place
  | .inside [] => .above
  | .inside names => .inside names.dropLast
  | .above => .above
  | .system names => .system names.dropLast

/-- The place with a given name in a directory. Directories above the working one have none. -/
def Place.child? (name : List Char) : Place → Option Place
  | .inside names => some (.inside (names ++ [name]))
  | .above => none
  | .system names => some (.system (names ++ [name]))

/-- Follows one name. -/
def follow (t : FileTree) (name : List Char) (place : Place) : Except ReadFailure Place :=
  match t.node? place with
  | none => .error .notFound
  | some (.file _) => .error .notDirectory
  | some .directory =>
    if name = ['.'] then .ok place
    else if name = ['.', '.'] then .ok place.parent
    else if maxName < Text.byteLength name then .error .nameTooLong
    else
      match place.child? name with
      | some child => if (t.node? child).isSome then .ok child else .error .notFound
      | none => .error .notFound

/-- Follows a path. A slash at its end asks for a directory. -/
def resolve (t : FileTree) (path : String) : Except ReadFailure Place :=
  let cs := path.toList
  if maxPath < Text.byteLength cs then .error .nameTooLong
  else
    let start := if cs.head? = some '/' then Place.system [] else .inside []
    let names := (PathName.pieces cs).filter (!·.isEmpty)
    let names := if cs.getLast? = some '/' then names ++ [['.']] else names
    names.foldlM (fun place name => t.follow name place) start

/-- The text of a file. -/
def read (t : FileTree) (path : String) : Except ReadFailure String := do
  match t.node? (← t.resolve path) with
  | none => throw .notFound
  | some .directory => throw .isDirectory
  | some (.file content) =>
    match String.fromUTF8? content with
    | some text => return text
    | none => throw .notText

/-- A path leads to a file. -/
def isFile (t : FileTree) (path : String) : Bool :=
  match t.resolve path with
  | .ok place =>
    match t.node? place with
    | some (.file _) => true
    | _ => false
  | .error _ => false

end FileTree

end LineRules
