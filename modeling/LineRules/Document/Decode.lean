/-
Decoding JSON values, from left to right. A decoder reports the first thing that is wrong in the
order of the text, be it the text itself or the shape of what it says. An object reports a member
twice given when it meets it, and a missing one only once it is complete. A record may also be
written as the array of its fields, in the order of their declaration.
-/
import LineRules.Json.Reader

namespace LineRules.Document

open Json

/-- What a document says that it must not say. -/
inductive Reason
  | missingField (name : String)
  | unknownVariant (name : String)
  | duplicateField (name : String)
  | invalidType
  | invalidValue
  | invalidLength
  deriving Repr, DecidableEq, Inhabited

/-- The wording of a reason. -/
def Reason.text : Reason → String
  | missingField name => "missing field `" ++ name ++ "`"
  | unknownVariant name => "unknown variant `" ++ name ++ "`"
  | duplicateField name => "duplicate field `" ++ name ++ "`"
  | invalidType => "invalid type"
  | invalidValue => "invalid value"
  | invalidLength => "invalid length"

/-- Why a document cannot be decoded: its text is at fault, or what it says. -/
inductive DecodeError
  | text (fault : Fault)
  | shape (reason : Reason)
  deriving Repr, DecidableEq, Inhabited

/-- What a decoder gives: a value or the first error. -/
abbrev Decoded (α : Type) := Except DecodeError α

/-! ## Values that are not decoded -/

mutual

/-- Passes over a value, which must be well-formed but need not be fit. -/
def skip : Json → Decoded Unit
  | .broken b => .error (.text b.skip)
  | .array items stop => skipItems items stop
  | .object members stop => skipMembers members stop
  | _ => .ok ()

/-- Passes over the elements of an array. -/
def skipItems : List Json → Option Break → Decoded Unit
  | [], none => .ok ()
  | [], some b => .error (.text b.skip)
  | v :: rest, stop => do
    skip v
    skipItems rest stop

/-- Passes over the members of an object. -/
def skipMembers : List (Key × Json) → Option Break → Decoded Unit
  | [], none => .ok ()
  | [], some b => .error (.text b.skip)
  | (_, v) :: rest, stop => do
    skip v
    skipMembers rest stop

end

mutual

/-- A value can be held for later: it is complete and fit, and arrays and objects in it are nested
at most `levels` deep. -/
def holdable : Nat → Json → Decoded Unit
  | _, .broken b => .error (.text b.read)
  | _, .unfit => .error (.text .malformed)
  | 0, .array _ _ => .error (.text .malformed)
  | 0, .object _ _ => .error (.text .malformed)
  | levels + 1, .array items stop => holdableItems levels items stop
  | levels + 1, .object members stop => holdableMembers levels members stop
  | _, _ => .ok ()

/-- The elements of an array can be held. -/
def holdableItems : Nat → List Json → Option Break → Decoded Unit
  | _, [], none => .ok ()
  | _, [], some b => .error (.text b.read)
  | levels, v :: rest, stop => do
    holdable levels v
    holdableItems levels rest stop

/-- The members of an object can be held. -/
def holdableMembers : Nat → List (Key × Json) → Option Break → Decoded Unit
  | _, [], none => .ok ()
  | _, [], some b => .error (.text b.read)
  | _, (.unfit, _) :: _, _ => .error (.text .malformed)
  | levels, (.name _, v) :: rest, stop => do
    holdable levels v
    holdableMembers levels rest stop

end

/-! ## Scalars -/

/-- What is wrong with a value that is not of the type wanted. Arrays and objects are not looked
into. -/
def wrongType : Json → DecodeError
  | .broken b => .text b.read
  | .unfit => .text .malformed
  | _ => .shape .invalidType

/-- A string. -/
def decodeString : Json → Decoded String
  | .string s => .ok s
  | v => .error (wrongType v)

/-- A truth value. -/
def decodeBool : Json → Decoded Bool
  | .bool b => .ok b
  | v => .error (wrongType v)

/-- A character is a string of one character. -/
def decodeChar : Json → Decoded Char
  | .string s =>
    match s.toList with
    | [c] => .ok c
    | _ => .error (.shape .invalidValue)
  | v => .error (wrongType v)

/-- A whole number of 64 bits without a sign. -/
def decodeUInt64 : Json → Decoded UInt64
  | .number (.natural n) => .ok n
  | .number (.negative _) => .error (.shape .invalidValue)
  | v => .error (wrongType v)

/-- A whole number of 32 bits without a sign. -/
def decodeUInt32 : Json → Decoded UInt32
  | .number (.natural n) =>
    if n.toNat < UInt32.size then .ok (UInt32.ofNat n.toNat) else .error (.shape .invalidValue)
  | .number (.negative _) => .error (.shape .invalidValue)
  | v => .error (wrongType v)

/-! ## Arrays and objects -/

section

variable {α β : Type}

/-- The elements of an array, all of one type. -/
def decodeItems (decode : Json → Decoded α) : List Json → Option Break → Decoded (List α)
  | [], none => .ok []
  | [], some b => .error (.text b.read)
  | v :: rest, stop => do
    let a ← decode v
    let others ← decodeItems decode rest stop
    return a :: others

/-- An array whose elements are all of one type. -/
def decodeList (decode : Json → Decoded α) : Json → Decoded (List α)
  | .array items stop => decodeItems decode items stop
  | v => .error (wrongType v)

/-- The members of an object, each of which adds to what was known before. -/
def decodeMembers (add : α → String → Json → Decoded α) :
    α → List (Key × Json) → Option Break → Decoded α
  | a, [], none => .ok a
  | _, [], some b => .error (.text b.read)
  | _, (.unfit, _) :: _, _ => .error (.text .malformed)
  | a, (.name key, v) :: rest, stop => do
    let a ← add a key v
    decodeMembers add a rest stop

/-- The value of a member that may be given once. -/
def once (name : String) (before : Option β) (value : Decoded β) : Decoded (Option β) :=
  if before.isSome then .error (.shape (.duplicateField name)) else value.map some

/-- The value of a member that must be given. -/
def given (name : String) : Option β → Decoded β
  | some b => .ok b
  | none => .error (.shape (.missingField name))

/-- The next element of a record that is written as an array, if there is one, and those after
it. -/
def nextItem (decode : Json → Decoded β) :
    List Json → Option Break → Decoded (Option β × List Json)
  | [], none => .ok (none, [])
  | [], some b => .error (.text b.read)
  | v :: rest, _ => do
    let b ← decode v
    return (some b, rest)

/-- An element that must be there. -/
def present : Option β → Decoded β
  | some b => .ok b
  | none => .error (.shape .invalidLength)

/-- No element is left over. -/
def noneLeft (surplus : DecodeError) : List Json → Option Break → Decoded Unit
  | [], none => .ok ()
  | [], some b => .error (.text b.read)
  | _ :: _, _ => .error surplus

/-- A record, written as an object or as an array. -/
def decodeRecord (ofMembers : List (Key × Json) → Option Break → Decoded α)
    (ofItems : List Json → Option Break → Decoded α) : Json → Decoded α
  | .object members stop => ofMembers members stop
  | .array items stop => ofItems items stop
  | v => .error (wrongType v)

end

/-! ## Where a record is read from

Most of a document is decoded as it is read. What an action holds is held until its kind is known.
The difference shows only if a record that is written as an array has too many elements. -/

/-- The error for an element too many in a record decoded as it is read. -/
def whileReading : DecodeError := .text .malformed

/-- The error for an element too many in a record that was held. -/
def whileHeld : DecodeError := .shape .invalidLength

end LineRules.Document
