/-
Captured fields: a name, a type and the position of the name.
-/
import LineRules.Pos

namespace LineRules

/-- The types a captured field may have. -/
inductive FieldType
  | int8 | int16 | int32 | int64
  | uint8 | uint16 | uint32 | uint64
  | float32 | float64
  | string | bytes
  deriving Repr, DecidableEq, Inhabited

namespace FieldType

/-- Every field type, in the order of their declaration. -/
def all : List FieldType :=
  [int8, int16, int32, int64, uint8, uint16, uint32, uint64, float32, float64, string, bytes]

/-- The name of a type, in documents, listings and messages alike. -/
def name : FieldType → String
  | int8 => "int8"
  | int16 => "int16"
  | int32 => "int32"
  | int64 => "int64"
  | uint8 => "uint8"
  | uint16 => "uint16"
  | uint32 => "uint32"
  | uint64 => "uint64"
  | float32 => "float32"
  | float64 => "float64"
  | string => "string"
  | bytes => "bytes"

/-- The type with a given name. -/
def ofName? (s : String) : Option FieldType := all.find? (·.name == s)

/-- A type is found under its own name. -/
theorem ofName?_name (t : FieldType) : ofName? t.name = some t := by cases t <;> decide

end FieldType

/-- A named, typed slot that a capture fills. -/
structure Field where
  name : String
  type : FieldType
  pos : Pos := {}
  deriving Repr, DecidableEq, Inhabited

end LineRules
