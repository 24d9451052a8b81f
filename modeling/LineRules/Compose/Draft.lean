/-
The draft of a rule's program: what the walk over its actions carries along. A draft knows in which
areas the walk stands, which fields it has met, and which operations stand ready; none of these
reaches an emitter before the walk is over.
-/
import LineRules.Journal
import LineRules.Op
import LineRules.Path

namespace LineRules

/-- A program in the making, with checkpoint trackers of type `τ`. -/
structure Draft (τ : Type) where
  tracker : τ
  /-- The operations, in the order in which they will be performed. -/
  ops : List Op := []
  /-- The names of the enclosing areas, innermost first. An unnamed area has the empty name. -/
  segments : List String := []
  /-- How many of the enclosing areas are unnamed. -/
  unnamedDepth : Nat := 0
  /-- The fields met so far by their qualified paths, latest first. -/
  fields : List (String × FieldType) := []
  journal : List Event := []

namespace Draft

variable {τ : Type}

/-- The path with the given segments, innermost first. Empty segments do not show. -/
def pathOf (segments : List String) : String :=
  Path.join (segments.reverse.filter (· ≠ ""))

/-- The qualified path at which the walk stands. -/
def path (d : Draft τ) : String := pathOf d.segments

/-- The qualified path of a field named `name` at which the walk stands. -/
def fieldPath (d : Draft τ) (name : String) : String := pathOf (name :: d.segments)

/-- Puts an operation after the others. -/
def push (op : Op) (d : Draft τ) : Draft τ := { d with ops := d.ops ++ [op] }

/-- Makes an entry in the journal. -/
def note (event : Event) (d : Draft τ) : Draft τ := { d with journal := d.journal ++ [event] }

/-- Enters an area or a field. -/
def tie (segment : String) (d : Draft τ) : Draft τ := { d with segments := segment :: d.segments }

/-- Leaves the innermost area or field. -/
def untie (d : Draft τ) : Draft τ := { d with segments := d.segments.tail }

end Draft

/-- A piece of the walk: it changes the draft, and fails or not. A failure keeps the draft. -/
abbrev Walk (τ : Type) := Draft τ → Except RuleError Unit × Draft τ

namespace Walk

variable {τ : Type}

/-- Nothing is left to do. -/
def done : Walk τ := fun d => (.ok (), d)

/-- The walk ends here. -/
def fail (e : RuleError) : Walk τ := fun d => (.error e, d)

/-- Changes the draft. -/
def update (f : Draft τ → Draft τ) : Walk τ := fun d => (.ok (), f d)

/-- One piece after another. The second is not reached if the first fails. -/
def andThen (first second : Walk τ) : Walk τ := fun d =>
  match first d with
  | (.ok (), d) => second d
  | (.error e, d) => (.error e, d)

/-- Several pieces, up to the first that fails. -/
def all : List (Walk τ) → Walk τ
  | [] => done
  | w :: rest => w.andThen (all rest)

/-- A piece inside an area or a field, which is left again whether the piece fails or not. -/
def tied (segment : String) (body : Walk τ) : Walk τ := fun d =>
  let (answer, d) := body (d.tie segment)
  (answer, d.untie)

/-- A piece inside an unnamed area, which is left again whether the piece fails or not. -/
def inUnnamed (body : Walk τ) : Walk τ := fun d =>
  let (answer, d) := tied "" body { d with unnamedDepth := d.unnamedDepth + 1 }
  (answer, { d with unnamedDepth := d.unnamedDepth - 1 })

/-- Puts an operation on the list. -/
def emit (op : Op) : Walk τ := update (.push op)

/-- Makes an entry in the journal. -/
def note (event : Event) : Walk τ := update (.note event)

end Walk

end LineRules
