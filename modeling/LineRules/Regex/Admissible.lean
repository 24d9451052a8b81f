/-
Which regular expressions can be used. Texts are Unicode, so an expression over bytes is used only
if it cannot match a part of a character. There are no tables of Unicode, so an expression over
code points is used only if it asks neither for the case of a character nor for its kind.
-/
import LineRules.Regex.Reader

namespace LineRules.Regex

/-- The flags that decide whether an expression can be used. -/
structure Mode where
  unicode : Bool := true
  caseless : Bool := false
  deriving Repr, DecidableEq

/-- The mode after switches. -/
def Mode.switch (m : Mode) (s : Switches) : Mode :=
  ⟨s.apply .unicode m.unicode, s.apply .caseless m.caseless⟩

/-- A character that stands alone. A byte has to be of ASCII. -/
def Literal.isAdmissible (m : Mode) (l : Literal) : Bool :=
  if m.unicode then !m.caseless else !l.isByte || l.char.toNat < 0x80

/-- A character as an item of a set. A set of bytes has only bytes of ASCII. -/
def Literal.isAdmissibleInSet (m : Mode) (l : Literal) : Bool :=
  if m.unicode then !m.caseless else l.char.toNat < 0x80

/-- What stands for one place or one character, outside of brackets. -/
def Atom.isAdmissible (m : Mode) : Atom → Bool
  | literal l => l.isAdmissible m
  | dot => m.unicode
  | shorthand negated => !m.unicode && !negated
  | anchor => true
  | wordEdge => !m.unicode

namespace CharSet

mutual

/-- A set. Negated sets of bytes have bytes that are not of ASCII. -/
def isAdmissible (m : Mode) : CharSet → Bool
  | empty => true
  | literal l => l.isAdmissibleInSet m
  | range low high => low.isAdmissibleInSet m && high.isAdmissibleInSet m
  | named negated => if m.unicode then !m.caseless else !negated
  | shorthand negated => !m.unicode && !negated
  | bracketed negated inner => (m.unicode || !negated) && inner.isAdmissible m
  | union items => allAdmissible m items
  | combined left right => left.isAdmissible m && right.isAdmissible m

/-- Sets that are all admissible. -/
def allAdmissible (m : Mode) : List CharSet → Bool
  | [] => true
  | s :: rest => s.isAdmissible m && allAdmissible m rest

end

end CharSet

mutual

/-- The mode after an expression, if the expression is admissible in the mode before. Flags hold up
to the end of the group, across its branches. -/
def modeAfter? (m : Mode) : Regex → Option Mode
  | empty => some m
  | atom a => if a.isAdmissible m then some m else none
  | charSet s => if s.isAdmissible m then some m else none
  | switch s => some (m.switch s)
  | repeated r => r.modeAfter? m
  | group _ s inner => (inner.modeAfter? (m.switch s)).map fun _ => m
  | sequence items => modeAfterAll? m items
  | choice branches => modeAfterAll? m branches

/-- The mode after expressions that follow each other, if they are admissible. -/
def modeAfterAll? (m : Mode) : List Regex → Option Mode
  | [] => some m
  | r :: rest =>
    match r.modeAfter? m with
    | some m => modeAfterAll? m rest
    | none => none

end

/-- How deeply an expression may be nested. -/
def depthLimit : Nat := 250

/-- An expression that can be used: it is not nested too deeply, its groups have different names,
and its parts are admissible. -/
def isAdmissible (r : Regex) : Bool :=
  r.depth ≤ depthLimit && decide r.names.Nodup && (r.modeAfter? {}).isSome

/-- Whether a text writes a regular expression that can be used. -/
def isUsable (cs : List Char) : Bool := (ofChars? cs).any isAdmissible

end LineRules.Regex
