/-
Composing a rule. The emitter is told that the rule begins; the walk over its actions checks the
rule and drafts its program; and only if the walk succeeds are the operations fed to the emitter and
the rule committed. A rule that fails after it was begun is abandoned, so that it leaves nothing
behind.
-/
import LineRules.Compose.Walk
import LineRules.Emitter

namespace LineRules

/-- The outcome of composing a rule: the committed operations or the first error, the emitter's
state, and the journal. -/
structure Composed (σ : Type) where
  result : Except RuleError (List Op)
  state : σ
  journal : List Event

variable {σ γ : Type}

/-- Feeds the operations of a rule to an emitter and commits the rule. -/
def Emitter.commit (e : Emitter σ γ) (ops : List Op) (s : σ) : Except EmitError Unit × σ :=
  match e.replay ops s with
  | (.ok (), s) => e.finishRule s
  | (.error err, s) => (.error err, s)

/-- Composes a rule. -/
def compose (e : Emitter σ γ) (normalize : String → String) (rule : Rule) (s : σ) : Composed σ :=
  let start := Event.composing rule.name
  let refused err := RuleError.mk rule.name rule.pos (.emitterRejection err)
  match e.beginRule rule.name rule.pos s with
  | (.error err, s) => { result := .error (refused err), state := s, journal := [start] }
  | (.ok tracker, s) =>
    let composer : Composer (γ × σ) :=
      { rule := rule.name, normalize := normalize, register := e.register }
    match composer.walkAll rule.actions { tracker := (tracker, s) } with
    | (.error err, d) =>
      { result := .error err
        state := e.abandonRule d.tracker.2
        journal := start :: d.journal ++ [.rejected rule.name err.pos] }
    | (.ok (), d) =>
      match e.commit d.ops d.tracker.2 with
      | (.error err, s) =>
        { result := .error (refused err)
          state := e.abandonRule s
          journal := start :: d.journal }
      | (.ok (), s) =>
        { result := .ok d.ops
          state := s
          journal := start :: d.journal ++ [.committed rule.name d.ops.length] }

end LineRules
