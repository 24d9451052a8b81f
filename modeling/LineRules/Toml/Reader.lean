/-
Reading a TOML document, version 1.0. A document is a list of lines: keys with their values, headers
of tables, headers of arrays of tables. Whatever breaks a rule makes the whole document unreadable.
-/
import LineRules.Toml.Scalar

namespace LineRules.Toml

open Scan

/-- How deep values may be nested. Dotted keys have no more than this many parts. -/
def maxDepth : Nat := 79

/-! ## Keys -/

/-- A character of a key without quotes. -/
def isBareKeyChar (c : Char) : Bool :=
  ('a' ≤ c && c ≤ 'z') || ('A' ≤ c && c ≤ 'Z') || Text.isDigit c || c == '_' || c == '-'

/-- A part of a key. -/
def simpleKey : Scan String :=
  basicString <|> literalString <|> do return String.ofList (← run1 isBareKeyChar)

/-- A part of a key with the blanks around it. -/
def spacedKey : Scan String := do
  blanks
  let key ← simpleKey
  blanks
  return key

/-- A key, as the parts before the last one and the last one. -/
def key : Scan (List String × String) := do
  let first ← spacedKey
  let others ← many (do symbol '.'; spacedKey)
  if maxDepth ≤ others.length then failure
  return ((first :: others).dropLast, others.getLast?.getD first)

/-! ## Values -/

/-- The elements of an array after its opening bracket, `n` of them at most. A comma may follow the
last one. -/
def arrayItems (item : Scan Toml) : Nat → Scan (List Toml)
  | 0 => failure
  | n + 1 =>
    (do symbol ']'; return []) <|> do
      let v ← item
      blankLines
      (do symbol ']'; return [v]) <|> do
        symbol ','
        blankLines
        return v :: (← arrayItems item n)

/-- An array, which may go over several lines. -/
def scanArray (item : Scan Toml) : Scan Toml := do
  symbol '['
  blankLines
  let items ← (fun cs => arrayItems item (cs.length + 1) cs : Scan (List Toml))
  return .array items

/-- A key and its value. -/
def keyValue (item : Scan Toml) : Scan ((List String × String) × Toml) := do
  let k ← key
  symbol '='
  blanks
  return (k, ← item)

/-- A table on one line. No comma follows its last key. -/
def scanTable (item : Scan Toml) : Scan Toml := do
  symbol '\x7b'
  let pair := do
    let kv ← keyValue item
    blanks
    return kv
  let first ← optional pair
  let others ← if first.isSome then many (do symbol ','; pair) else pure []
  blanks
  symbol '\x7d'
  let entries ← (first.toList ++ others).foldlM
    (fun entries kv => (addDotted kv.1.1 kv.1.2 kv.2 .inline entries : Option Entries)) []
  return .table .inline entries

/-- A value in which arrays and tables may be nested `levels` deep. -/
def scanValue : Nat → Scan Toml
  | 0 => scanScalar
  | levels + 1 => scanArray (scanValue levels) <|> scanTable (scanValue levels) <|> scanScalar

/-! ## Documents -/

/-- The end of a line that says something. -/
def lineEnd : Scan Unit := do
  blanks
  let _ ← optional comment
  newline <|> atEnd

/-- What has been read of a document: its tables, and the header under which the next keys stand. -/
structure Body where
  entries : Entries := []
  header : List String := []

namespace Body

/-- Adds a value under the current header. -/
def addKey (b : Body) (path : List String) (key : String) (v : Toml) : Option Body := do
  let entries ← changeAt false (addDotted path key v) b.header .header b.entries
  return { b with entries := entries }

/-- Opens the table of a header. -/
def addHeader (b : Body) (path : List String) (key : String) : Option Body := do
  let entries ← changeAt false (openTable key) path .header b.entries
  return { entries := entries, header := path ++ [key] }

/-- Opens the next table of an array of tables. -/
def addElement (b : Body) (path : List String) (key : String) : Option Body := do
  let entries ← changeAt false (openElement key) path .header b.entries
  return { entries := entries, header := path ++ [key] }

end Body

/-- A header in double brackets. -/
def elementLine (b : Body) : Scan Body := do
  word ['[', '[']
  let k ← key
  word [']', ']']
  lineEnd
  b.addElement k.1 k.2

/-- A header in single brackets. -/
def headerLine (b : Body) : Scan Body := do
  symbol '['
  let k ← key
  symbol ']'
  lineEnd
  b.addHeader k.1 k.2

/-- A key and its value on a line. -/
def keyLine (b : Body) : Scan Body := do
  let kv ← keyValue (scanValue maxDepth)
  lineEnd
  b.addKey kv.1.1 kv.1.2 kv.2

/-- A line, to the end of the blanks at the start of the next one. -/
def line (b : Body) : Scan Body := do
  let b ← (do comment; newline <|> atEnd; return b) <|> (do newline; return b) <|>
    elementLine b <|> headerLine b <|> keyLine b
  blanks
  return b

/-- The lines of a document, `n` of them at most. -/
def lines : Nat → Body → Scan Body
  | 0, b => do
    atEnd
    return b
  | n + 1, b =>
    (do atEnd; return b) <|> do
      let b ← line b
      lines n b

/-- The entries of a document. A byte order mark at its start does not count. -/
def read (text : String) : Option Entries := do
  let cs := text.toList
  let cs := if cs.head? = some '\uFEFF' then cs.drop 1 else cs
  let ((), cs) ← blanks cs
  let (b, _) ← lines cs.length {} cs
  return b.entries

end LineRules.Toml
