/-
Writing JSON. There is a compact form on one line, and a form with one element or member per line,
indented by two blanks for each level. Characters outside ASCII are written as they are.
-/
import LineRules.Json.Basic
import LineRules.Text.Decimal

namespace LineRules.Json

/-- How a character is written in a string. -/
def writtenChar (c : Char) : List Char :=
  if c = '"' then ['\\', '"']
  else if c = '\\' then ['\\', '\\']
  else if c = '\x08' then ['\\', 'b']
  else if c = '\x0c' then ['\\', 'f']
  else if c = '\n' then ['\\', 'n']
  else if c = '\r' then ['\\', 'r']
  else if c = '\t' then ['\\', 't']
  else if c.toNat < 0x20 then
    ['\\', 'u', '0', '0', Nat.digitChar (c.toNat / 16), Nat.digitChar (c.toNat % 16)]
  else [c]

/-- A string between quotes. -/
def writtenString (s : String) : List Char := '"' :: s.toList.flatMap writtenChar ++ ['"']

/-- A name of a member between quotes. A name without a text is written as the empty one. -/
def Key.written : Key → List Char
  | .name s => writtenString s
  | .unfit => ['"', '"']

/-- A number. Only whole numbers are ever written. -/
def Number.written : Number → List Char
  | .natural n => Nat.toDigits 10 n.toNat
  | .negative n => '-' :: Nat.toDigits 10 n
  | .fractional => ['0', '.', '0']

/-- A value that is neither an array nor an object. What has no value is written as `null`. -/
def writtenScalar : Json → List Char
  | bool true => "true".toList
  | bool false => "false".toList
  | number n => n.written
  | string s => writtenString s
  | _ => "null".toList

/-! ## Compact form -/

mutual

/-- A value on one line. -/
def compactChars : Json → List Char
  | array items _ => '[' :: compactItems items ++ [']']
  | object members _ => '\x7b' :: compactMembers members ++ ['\x7d']
  | v => writtenScalar v

/-- The elements of an array, with commas between them. -/
def compactItems : List Json → List Char
  | [] => []
  | [v] => compactChars v
  | v :: rest => compactChars v ++ ',' :: compactItems rest

/-- The members of an object, with commas between them. -/
def compactMembers : List (Key × Json) → List Char
  | [] => []
  | [(key, v)] => key.written ++ ':' :: compactChars v
  | (key, v) :: rest => key.written ++ ':' :: compactChars v ++ ',' :: compactMembers rest

end

/-- A value on one line. -/
def compact (v : Json) : String := String.ofList (compactChars v)

/-! ## Indented form -/

/-- A new line at a level. -/
def newLine (level : Nat) : List Char := '\n' :: List.replicate (2 * level) ' '

mutual

/-- A value over several lines, whose last line stands at `level`. -/
def prettyChars (level : Nat) : Json → List Char
  | array [] _ => ['[', ']']
  | array items _ => '[' :: prettyItems (level + 1) items ++ newLine level ++ [']']
  | object [] _ => ['\x7b', '\x7d']
  | object members _ =>
    '\x7b' :: prettyMembers (level + 1) members ++ newLine level ++ ['\x7d']
  | v => writtenScalar v

/-- The elements of an array, each on lines of its own. -/
def prettyItems (level : Nat) : List Json → List Char
  | [] => []
  | [v] => newLine level ++ prettyChars level v
  | v :: rest => newLine level ++ prettyChars level v ++ ',' :: prettyItems level rest

/-- The members of an object, each on lines of its own. -/
def prettyMembers (level : Nat) : List (Key × Json) → List Char
  | [] => []
  | [(key, v)] => newLine level ++ key.written ++ ':' :: ' ' :: prettyChars level v
  | (key, v) :: rest =>
    newLine level ++ key.written ++ ':' :: ' ' :: prettyChars level v
      ++ ',' :: prettyMembers level rest

end

/-- A value over several lines. -/
def pretty (v : Json) : String := String.ofList (prettyChars 0 v)

end LineRules.Json
