/-
Scanners: functions that take something off the front of a text or fail. What a scanner leaves over
is the rest of the text.
-/
namespace LineRules

/-- A scanner for values of type `α`. -/
abbrev Scan (α : Type) := StateT (List Char) Option α

namespace Scan

variable {α : Type}

/-- A character of a class. -/
def one (p : Char → Bool) : Scan Char := fun cs =>
  match cs with
  | c :: rest => if p c then some (c, rest) else none
  | [] => none

/-- The next character, whatever it is. -/
def any : Scan Char := one fun _ => true

/-- A given character. -/
def symbol (c : Char) : Scan Unit := do
  let _ ← one (· == c)

/-- A given text. -/
def word : List Char → Scan Unit
  | [] => pure ()
  | c :: rest => do
    symbol c
    word rest

/-- As many characters of a class as there are. -/
def run (p : Char → Bool) : Scan (List Char) := fun cs => some (cs.takeWhile p, cs.dropWhile p)

/-- As many characters of a class as there are, and at least one. -/
def run1 (p : Char → Bool) : Scan (List Char) := do
  let cs ← run p
  if cs.isEmpty then failure else return cs

/-- The end of the text. -/
def atEnd : Scan Unit := fun cs => if cs.isEmpty then some ((), []) else none

/-- What `item` takes off the front again and again, `n` times at most. -/
def manyWithin (item : Scan α) : Nat → Scan (List α)
  | 0 => pure []
  | n + 1 =>
    (do
      let a ← item
      return a :: (← manyWithin item n)) <|> pure []

/-- What `item` takes off the front again and again. Each time it takes at least one character. -/
def many (item : Scan α) : Scan (List α) := fun cs => manyWithin item cs.length cs

/-- Exactly `n` characters of a class. -/
def exactly (p : Char → Bool) : Nat → Scan (List Char)
  | 0 => pure []
  | n + 1 => do
    let c ← one p
    return c :: (← exactly p n)

end Scan

end LineRules
