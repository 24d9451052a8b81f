/-
Emitters: whoever receives composed rules. An emitter is a state machine. It is told that a rule
begins, which it may refuse; it tracks the rule's checkpoints; and only once the whole rule has
passed does it receive the operations, one by one, and the end of the rule. There is a method for
each operation. Those that scan or mark are taken in any case; any other call may be refused. A rule
that is given up midway is abandoned.
-/
import LineRules.Error
import LineRules.Op

namespace LineRules

/-- An emitter with states `σ` whose checkpoint trackers have states `γ`. A refused call may still
change the state. -/
structure Emitter (σ γ : Type) where
  /-- Begins a rule and hands out a tracker for it. -/
  beginRule : String → Pos → σ → Except EmitError γ × σ
  /-- Registers the checkpoint at a path. -/
  register : String → γ × σ → Except EmitError Unit × (γ × σ)
  /-- Opens an area without a name. -/
  openUnnamedScope : Pos → σ → Except EmitError Unit × σ
  /-- Closes the innermost area without a name. -/
  closeUnnamedScope : σ → Except EmitError Unit × σ
  /-- Opens the area of a name. -/
  openNamedScope : String → Pos → σ → Except EmitError Unit × σ
  /-- Closes the innermost area with a name. -/
  closeNamedScope : σ → Except EmitError Unit × σ
  /-- Marks a checkpoint that the tracker has let pass. -/
  checkpoint : String → σ → σ
  /-- The line ends here. -/
  atEnd : σ → σ
  /-- From here on a mismatch is an error. -/
  stress : σ → σ
  /-- Matches a literal here, unless it is optional and missing. -/
  head : Literal → Bool → σ → σ
  /-- Skips so many characters. -/
  passFirst : UInt64 → σ → σ
  /-- Skips past a literal at an offset. With the flag it may be missing. -/
  lookupFixed : Literal → UInt64 → Bool → σ → σ
  /-- Skips past a literal between a lower and an upper bound. The flags are `close` and `ignore`. -/
  lookup : Literal → UInt64 → UInt64 → Bool → Bool → σ → σ
  /-- Declares a field that is about to be captured. -/
  addField : String → FieldType → Pos → σ → Except EmitError Unit × σ
  /-- Captures a field up to a literal between a lower and an upper bound. The flags are `close` and
  `orRest`. -/
  takeBefore : String → FieldType → Literal → UInt64 → UInt64 → Bool → Bool → σ → Except EmitError Unit × σ
  /-- Captures what is left of the line. -/
  takeRest : String → FieldType → σ → Except EmitError Unit × σ
  /-- Commits the rule. -/
  finishRule : σ → Except EmitError Unit × σ
  /-- Drops what is there of the rule. -/
  abandonRule : σ → σ

namespace Emitter

variable {σ γ : Type}

/-- Calls the method of an operation with the fields of the operation. -/
def perform (e : Emitter σ γ) (op : Op) (s : σ) : Except EmitError Unit × σ :=
  match op with
  | .openUnnamed pos => e.openUnnamedScope pos s
  | .closeUnnamed => e.closeUnnamedScope s
  | .openNamed name pos => e.openNamedScope name pos s
  | .closeNamed => e.closeNamedScope s
  | .checkpoint path => (.ok (), e.checkpoint path s)
  | .atEnd => (.ok (), e.atEnd s)
  | .stress => (.ok (), e.stress s)
  | .head literal optional => (.ok (), e.head literal optional s)
  | .passFirst count => (.ok (), e.passFirst count s)
  | .lookupFixed literal offset ignore => (.ok (), e.lookupFixed literal offset ignore s)
  | .lookup literal lower upper close ignore => (.ok (), e.lookup literal lower upper close ignore s)
  | .declareField name type pos => e.addField name type pos s
  | .takeBefore name type literal lower upper close orRest =>
    e.takeBefore name type literal lower upper close orRest s
  | .takeRest name type => e.takeRest name type s

/-- Performs operations in order, up to the first that is refused. -/
def replay (e : Emitter σ γ) : List Op → σ → Except EmitError Unit × σ
  | [], s => (.ok (), s)
  | op :: rest, s =>
    match e.perform op s with
    | (.ok (), s) => e.replay rest s
    | (.error err, s) => (.error err, s)

end Emitter

end LineRules
