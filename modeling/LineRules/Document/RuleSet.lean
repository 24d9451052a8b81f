/-
Rule sets as JSON documents. `RuleSet.ofText` and `RuleSet.toJson` go the two ways; a document may
say less than `toJson` writes, since positions, bounds, flags and the actions of a rule have
defaults, and members that are not known are passed over.
-/
import LineRules.Document.Action

namespace LineRules

open Document

/-- How deep arrays and objects may be nested in a document. -/
def Document.maxDepth : Nat := 127

/-! ## Rules -/

namespace Rule

/-- The members of a rule that have been read. -/
structure Members where
  name : Option String := none
  pos : Option Pos := none
  actions : Option (List Action) := none

/-- The actions of a rule that is nested `levels` deep, itself included. The list of its actions and
each action take a level of their own. -/
def decodeActions (levels : Nat) : Json → Decoded (List Action) :=
  decodeList (Action.ofJson (levels - 3) whileReading)

/-- Reads a member of a rule. -/
def addMember (levels : Nat) (m : Members) (key : String) (v : Json) : Decoded Members := do
  if key = "name" then return { m with name := ← once key m.name (decodeString v) }
  else if key = "pos" then return { m with pos := ← once key m.pos (Pos.ofJson whileReading v) }
  else if key = "actions" then
    return { m with actions := ← once key m.actions (decodeActions levels v) }
  else do
    skip v
    return m

/-- A rule in which arrays and objects are nested at most `levels` deep, itself included. Its
position and its actions may be left out. -/
def ofJson (levels : Nat) : Json → Decoded Rule :=
  decodeRecord
    (fun members stop => do
      let m ← decodeMembers (addMember levels) {} members stop
      let name ← given "name" m.name
      return { name := name, pos := m.pos.getD {}, actions := m.actions.getD [] })
    (fun items stop => do
      let (name, items) ← nextItem decodeString items stop
      let name ← present name
      let (pos, items) ← nextItem (Pos.ofJson whileReading) items stop
      let (actions, items) ← nextItem (decodeActions levels) items stop
      noneLeft whileReading items stop
      return { name := name, pos := pos.getD {}, actions := actions.getD [] })

/-- A rule as `ofJson` reads it. -/
def toJson (r : Rule) : Json :=
  .record [
    ("name", .string r.name),
    ("pos", r.pos.toJson),
    ("actions", .list (Action.listToJson r.actions))]

end Rule

/-! ## Rule sets -/

namespace RuleSet

/-- The rules of a rule set. The document and the list of its rules take a level of their own. -/
def decodeRules : Json → Decoded (List Rule) := decodeList (Rule.ofJson (maxDepth - 2))

/-- Reads a member of a rule set. -/
def addMember (rules : Option (List Rule)) (key : String) (v : Json) :
    Decoded (Option (List Rule)) := do
  if key = "rules" then once key rules (decodeRules v)
  else do
    skip v
    return rules

/-- A rule set. -/
def ofJson : Json → Decoded RuleSet :=
  decodeRecord
    (fun members stop => do
      let rules ← decodeMembers addMember none members stop
      let rules ← given "rules" rules
      return { rules := rules })
    (fun items stop => do
      let (rules, items) ← nextItem decodeRules items stop
      let rules ← present rules
      noneLeft whileReading items stop
      return { rules := rules })

/-- The rule set of a document, after which nothing may follow. -/
def ofDocument (d : Json.Document) : Decoded RuleSet := do
  let rules ← ofJson d.root
  if d.trailing then throw (.text .malformed)
  return rules

/-- The rule set that a text describes. -/
def ofText (text : String) : Decoded RuleSet := ofDocument (Json.read text)

/-- A rule set as `ofJson` reads it. -/
def toJson (s : RuleSet) : Json := .record [("rules", .list (s.rules.map Rule.toJson))]

end RuleSet

end LineRules
