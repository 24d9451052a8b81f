/-
Lengths and places in a text, counted in bytes of UTF-8.
-/
namespace LineRules.Text

/-- The number of bytes of a text. -/
def byteLength : List Char → Nat
  | [] => 0
  | c :: rest => c.utf8Size + byteLength rest

/-- The characters of a text that begin at byte `start` or later and before byte `stop`, where the
text itself begins at byte `offset`. -/
def sliceAt (start stop offset : Nat) : List Char → List Char
  | [] => []
  | c :: rest =>
    let others := sliceAt start stop (offset + c.utf8Size) rest
    if start ≤ offset ∧ offset < stop then c :: others else others

/-- The characters of a text that begin at byte `start` or later and before byte `stop`. -/
def slice (start stop : Nat) (cs : List Char) : List Char := sliceAt start stop 0 cs

end LineRules.Text
