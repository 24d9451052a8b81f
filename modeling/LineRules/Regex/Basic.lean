/-
Regular expressions as trees. A tree keeps what decides whether an expression can be used: its
characters, sets, groups and flags, and how deeply they are nested. It does not keep how often
something is repeated or which end an anchor stands for, since nothing is ever matched.
-/
namespace LineRules

namespace Regex

/-! ## Flags -/

/-- The flags of a regular expression. -/
inductive Flag
  /-- Letters match in either case. -/
  | caseless
  /-- Anchors match at lines. -/
  | multiLine
  /-- The dot matches line ends. -/
  | dotAll
  /-- Repetitions take as little as they can. -/
  | swapGreed
  /-- Characters are code points, not bytes. -/
  | unicode
  /-- A carriage return may end a line. -/
  | carriageReturn
  /-- White space and comments are passed over. -/
  | verbose
  deriving Repr, DecidableEq

/-- The flag that a letter stands for. -/
def Flag.ofLetter? : Char → Option Flag
  | 'i' => some .caseless
  | 'm' => some .multiLine
  | 's' => some .dotAll
  | 'U' => some .swapGreed
  | 'u' => some .unicode
  | 'R' => some .carriageReturn
  | 'x' => some .verbose
  | _ => none

/-- Flags that are switched on and flags that are switched off. -/
structure Switches where
  on : List Flag := []
  off : List Flag := []
  deriving Repr, DecidableEq

/-- The value of a flag after the switches, from its value before. -/
def Switches.apply (s : Switches) (f : Flag) (before : Bool) : Bool :=
  (before || s.on.contains f) && !s.off.contains f

/-! ## Characters -/

/-- A character that stands for itself. One that is written with two hexadecimal digits stands for
a byte where characters are bytes. -/
structure Literal where
  char : Char
  isByte : Bool := false
  deriving Repr, DecidableEq

/-- What one character stands for, or a backslash with what belongs to it. -/
inductive Atom
  | literal (l : Literal)
  /-- The dot: any character. -/
  | dot
  /-- Digits, white space or word characters, or all others. -/
  | shorthand (negated : Bool)
  /-- An end of the text or of a line. -/
  | anchor
  /-- A place at an end of a word, or elsewhere. -/
  | wordEdge
  deriving Repr, DecidableEq

/-! ## Sets -/

/-- What stands between brackets. -/
inductive CharSet
  | empty
  | literal (l : Literal)
  | range (low high : Literal)
  /-- A class of ASCII characters by its name. -/
  | named (negated : Bool)
  /-- Digits, white space or word characters, or all others. -/
  | shorthand (negated : Bool)
  /-- A set in brackets of its own. -/
  | bracketed (negated : Bool) (inner : CharSet)
  | union (items : List CharSet)
  /-- The intersection or a difference of two sets. -/
  | combined (left right : CharSet)
  deriving Repr

namespace CharSet

/-- Items side by side. -/
def ofItems : List CharSet → CharSet
  | [] => empty
  | [s] => s
  | items => union items

mutual

/-- How deeply a set is nested. -/
def depth : CharSet → Nat
  | bracketed _ inner => inner.depth + 1
  | union items => maxDepth items + 1
  | combined left right => max left.depth right.depth + 1
  | _ => 0

/-- The depth of the deepest of some sets. -/
def maxDepth : List CharSet → Nat
  | [] => 0
  | s :: rest => max s.depth (maxDepth rest)

end

end CharSet

end Regex

/-! ## Expressions -/

/-- A regular expression. -/
inductive Regex
  | empty
  | atom (a : Regex.Atom)
  | charSet (s : Regex.CharSet)
  /-- Flags that hold from here to the end of the group. -/
  | switch (s : Regex.Switches)
  | repeated (r : Regex)
  /-- A group, possibly with a name, and the flags that hold inside. -/
  | group (name : Option (List Char)) (s : Regex.Switches) (inner : Regex)
  | sequence (items : List Regex)
  | choice (branches : List Regex)
  deriving Repr

namespace Regex

/-- Items one after the other. -/
def ofItems : List Regex → Regex
  | [] => empty
  | [r] => r
  | items => sequence items

/-- Branches of which one is chosen. -/
def ofBranches : List Regex → Regex
  | [] => empty
  | [r] => r
  | branches => choice branches

mutual

/-- How deeply an expression is nested. -/
def depth : Regex → Nat
  | charSet s => s.depth
  | repeated r => r.depth + 1
  | group _ _ inner => inner.depth + 1
  | sequence items => maxDepth items + 1
  | choice branches => maxDepth branches + 1
  | _ => 0

/-- The depth of the deepest of some expressions. -/
def maxDepth : List Regex → Nat
  | [] => 0
  | r :: rest => max r.depth (maxDepth rest)

end

mutual

/-- The names of groups, in order. -/
def names : Regex → List (List Char)
  | repeated r => r.names
  | group name _ inner => name.toList ++ inner.names
  | sequence items => allNames items
  | choice branches => allNames branches
  | _ => []

/-- The names of groups in some expressions, in order. -/
def allNames : List Regex → List (List Char)
  | [] => []
  | r :: rest => r.names ++ allNames rest

end

end Regex

end LineRules
