/-
The walk over a rule's actions. It goes through the tree once, depth first, checks every action
against the rules of the language and puts its operations on the draft:

- in an unnamed area nothing is captured and no named area is opened;
- the names of areas and fields are in the style of the naming policy;
- no two fields have the same qualified path;
- every limit has a literal, except that a tolerant skip with a kind of delimiter that is not known
  is passed over;
- the checkpoints, one in front of every action that scans, are accepted by the tracker.

The first action that breaks a rule ends the walk.
-/
import LineRules.Compose.Draft
import LineRules.Rule

namespace LineRules

/-- What the walk needs to know about its surroundings. -/
structure Composer (τ : Type) where
  /-- The name of the rule. -/
  rule : String
  /-- What the naming policy makes of a name. -/
  normalize : String → String
  /-- Registers a checkpoint. -/
  register : String → τ → Except EmitError Unit × τ

/-- The search for a limit's delimiter. A window of one place is a look at that place. -/
def Limit.lookup (l : Limit) (literal : Literal) (ignore : Bool) : Op :=
  if l.isFixed then .lookupFixed literal l.lower ignore
  else .lookup literal l.lower l.upper l.close ignore

namespace Composer

variable {τ : Type} (c : Composer τ)

open Walk

/-! ## Checks -/

/-- The walk fails at a position. -/
def failAt (pos : Pos) (cause : ComposeError) : Walk τ := fail ⟨c.rule, pos, cause⟩

/-- The walk does not stand in an unnamed area. -/
def outsideUnnamed (what : Forbidden) (pos : Pos) : Walk τ := fun d =>
  if 0 < d.unnamedDepth then c.failAt pos (.scopeViolation what) d else done d

/-- What a name must be. -/
def expectedName (name : String) : String :=
  let normal := c.normalize name
  if normal = "" then "a non-empty alphanumeric name" else normal

/-- A name is in the style of the naming policy. -/
def checkName (what : Named) (name : String) (pos : Pos) : Walk τ :=
  let expected := c.expectedName name
  if expected = name then done else c.failAt pos (.invalidIdentifier what name expected)

/-- The path of a field is new. -/
def declare (field : Field) : Walk τ := fun d =>
  let path := d.fieldPath field.name
  match d.fields.lookup path with
  | some earlier => c.failAt field.pos (.duplicateField path earlier) d
  | none => done { d with fields := (path, field.type) :: d.fields }

/-- Registers the checkpoint at which the walk stands and puts it on the list. -/
def checkpoint (pos : Pos) : Walk τ := fun d =>
  match c.register d.path d.tracker with
  | (.ok (), tracker) => emit (.checkpoint d.path) { d with tracker := tracker }
  | (.error e, tracker) => c.failAt pos (.checkpointViolation e) { d with tracker := tracker }

/-- Goes on with the literal of a limit, which there must be. -/
def withLiteral (pos : Pos) (action : String) (limit : Limit) (body : Literal → Walk τ) : Walk τ :=
  match limit.literal? with
  | some literal => body literal
  | none => c.failAt pos (.malformedLimit action limit.kind limit.value)

/-! ## Actions -/

/-- A capture: the checks on its field, then `body` at the field's own path. -/
def capture (what : Forbidden) (field : Field) (body : Walk τ) : Walk τ :=
  all [
    c.outsideUnnamed what field.pos,
    c.checkName .field field.name field.pos,
    c.declare field,
    tied field.name (all [c.checkpoint field.pos, body])]

/-- An action without a body. -/
def step (pos : Pos) : Step → Walk τ
  | .atEnd => all [c.checkpoint pos, emit .atEnd]
  | .errorOnMismatch => emit .stress
  | .head literal optional => all [c.checkpoint pos, emit (.head literal optional)]
  | .passFirst count => all [c.checkpoint pos, emit (.passFirst count)]
  | s@(.passUntil limit ignore) =>
    let search := c.withLiteral pos s.kind limit fun literal => emit (limit.lookup literal ignore)
    all [
      c.checkpoint pos,
      match limit.kind, ignore with
      | .unrecognized kind, true => note (.skippedPass c.rule pos kind)
      | _, _ => search]
  | s@(.take field limit orRest) =>
    c.capture .take field
      (c.withLiteral pos s.kind limit fun literal =>
        all [
          emit (.declareField field.name field.type field.pos),
          emit (.takeBefore field.name field.type literal limit.lower limit.upper limit.close
            orRest)])
  | .takeRest field =>
    c.capture .takeRest field
      (all [
        emit (.declareField field.name field.type field.pos),
        emit (.takeRest field.name field.type)])

/-- Notes that an action is reached. -/
def reach (a : Action) : Walk τ := fun d =>
  note (.dispatch c.rule a.kind a.pos d.ops.length) d

mutual

/-- An action and everything in its body. -/
def walk : Action → Walk τ
  | .unnamed pos body =>
    all [
      emit (.openUnnamed pos),
      inUnnamed (walkAll body),
      emit .closeUnnamed,
      note (.endOfUnnamed c.rule)]
  | .named pos name body =>
    all [
      c.outsideUnnamed .namedArea pos,
      c.checkName .option name pos,
      c.checkpoint pos,
      emit (.openNamed name pos),
      tied name (walkAll body),
      emit .closeNamed,
      note (.endOfNamed c.rule name)]
  | .step pos s => c.step pos s

/-- Actions in order, up to the first that fails. -/
def walkAll : List Action → Walk τ
  | [] => done
  | a :: rest => all [c.reach a, walk a, walkAll rest]

end

end Composer

end LineRules
