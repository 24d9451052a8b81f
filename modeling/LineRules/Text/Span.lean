/-
Sets of code points, written as spans: the code points from `first` to `last` that lie a multiple
of `step` after `first`. A table of spans is in increasing order and no two of its spans overlap,
so a look-up may stop at the first span that does not lie wholly below the code point.
-/
namespace LineRules.Text

/-- The code points `first`, `first + step`, `first + 2 * step`, … up to `last`. -/
structure Span where
  first : Nat
  last : Nat
  step : Nat
  deriving Repr, DecidableEq

/-- The code point lies in the span. -/
def Span.holds (s : Span) (n : Nat) : Bool :=
  s.first ≤ n && n ≤ s.last && (n - s.first) % s.step == 0

/-- The code point lies in a span of the table, whose spans are in increasing order. -/
def spansHold : List Span → Nat → Bool
  | [], _ => false
  | s :: rest, n => if s.last < n then spansHold rest n else s.holds n

/-- The code points `first`, `first + step`, … up to `last`, each moved by as much as moves `first`
to `target`. -/
structure Shift where
  first : Nat
  last : Nat
  step : Nat
  target : Nat
  deriving Repr, DecidableEq

/-- The code points that the shift moves. -/
def Shift.span (s : Shift) : Span := ⟨s.first, s.last, s.step⟩

/-- Where the table moves a code point, if it moves it at all. -/
def shifted? : List Shift → Nat → Option Nat
  | [], _ => none
  | s :: rest, n =>
    if s.last < n then shifted? rest n
    else if s.span.holds n then some (s.target + (n - s.first)) else none

end LineRules.Text
