/-
JSON texts as trees. A tree keeps what a text says as far as the text can be read: where the text
breaks off or stops being JSON, the tree ends with a break, and everything before it is there. So a
decoder that walks a tree from left to right meets a wrong shape and a broken text in the order in
which they stand in the text.
-/
namespace LineRules

namespace Json

/-- What is wrong with a text: it ends too early, or it is not JSON. -/
inductive Fault
  | truncated
  | malformed
  deriving Repr, DecidableEq, Inhabited

/-- The end of the readable part of a text. A number or string may be at fault in two ways,
depending on whether its value is read or only passed over. -/
structure Break where
  read : Fault
  skip : Fault
  deriving Repr, DecidableEq, Inhabited

/-- The same fault for reading and for passing over. -/
def Break.both (f : Fault) : Break := ⟨f, f⟩

/-- The numbers that are told apart: the whole numbers of 64 bits, with and without a sign, and all
others. -/
inductive Number
  | natural (n : UInt64)
  /-- A number below zero, by its magnitude. -/
  | negative (magnitude : Nat)
  | fractional
  deriving Repr, DecidableEq, Inhabited

/-- The name of an object's member, or a name that stands for no text because of an unpaired
surrogate. -/
inductive Key
  | name (s : String)
  | unfit
  deriving Repr, DecidableEq, Inhabited

end Json

open Json in
/-- A JSON text. -/
inductive Json
  | null
  | bool (b : Bool)
  | number (n : Number)
  | string (s : String)
  /-- A number too large or a string with an unpaired surrogate: well-formed, but without value. -/
  | unfit
  /-- The elements that could be read, and the break after them unless the array is complete. -/
  | array (items : List Json) (stop : Option Break)
  /-- The members that could be read, and the break after them unless the object is complete. -/
  | object (members : List (Key × Json)) (stop : Option Break)
  /-- No value: the text breaks here. -/
  | broken (b : Break)
  deriving Repr, Inhabited

namespace Json

/-- A complete array. -/
def list (items : List Json) : Json := array items none

/-- A complete object. -/
def record (members : List (String × Json)) : Json :=
  object (members.map fun m => (.name m.1, m.2)) none

/-- A whole number. -/
def natural (n : UInt64) : Json := number (.natural n)

/-- The value of the first member with a given name. -/
def get? (name : String) : Json → Option Json
  | object members _ => (members.find? (·.1 == .name name)).map (·.2)
  | _ => none

end Json

end LineRules
