/-
The checkpoint tracker. A rule walks its qualified paths depth first and never comes back: once a
checkpoint lands outside a scope, that scope is closed, and every later checkpoint within it is
refused. The root is never closed.
-/
import LineRules.Error
import LineRules.Path

namespace LineRules

/-- The last path registered and the scopes left so far, in the order in which they were left. -/
structure Tracker where
  current : List Char := []
  closed : List (List Char) := []
  deriving Repr, DecidableEq, Inhabited

namespace Tracker

/-- A path lies within a scope that was left. -/
def reenters (t : Tracker) (path : List Char) : Bool := t.closed.any (Path.within path ·)

/-- Closes the scopes in which `path` does not lie. A scope is closed once. -/
def close (path : List Char) : List (List Char) → List (List Char) → List (List Char)
  | [], closed => closed
  | scope :: rest, closed =>
    if !Path.within path scope && !closed.contains scope then
      close path rest (closed ++ [scope])
    else close path rest closed

/-- Moves to a path, leaving the scopes of the current one in which it does not lie. -/
def moveTo (t : Tracker) (path : List Char) : Tracker :=
  { current := path, closed := close path (Path.scopes t.current) t.closed }

/-- Registers a checkpoint. A refused one changes nothing. -/
def register (path : String) (t : Tracker) : Except EmitError Unit × Tracker :=
  if t.reenters path.toList then (.error (.scopeReentered path), t)
  else (.ok (), t.moveTo path.toList)

end Tracker

end LineRules
