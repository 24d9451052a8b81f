/-
White space: the code points with the Unicode property White_Space.
-/
import LineRules.Text.Span

namespace LineRules.Text

/-- The property White_Space. -/
def whiteSpaceSpans : List Span :=
  [⟨0x9, 0xD, 1⟩, ⟨0x20, 0x20, 1⟩, ⟨0x85, 0x85, 1⟩, ⟨0xA0, 0xA0, 1⟩, ⟨0x1680, 0x1680, 1⟩,
   ⟨0x2000, 0x200A, 1⟩, ⟨0x2028, 0x2029, 1⟩, ⟨0x202F, 0x202F, 1⟩, ⟨0x205F, 0x205F, 1⟩,
   ⟨0x3000, 0x3000, 1⟩]

/-- A blank of any kind, or a line end. -/
def isWhiteSpace (c : Char) : Bool := spansHold whiteSpaceSpans c.toNat

/-- A text without the white space at its two ends. -/
def trimmed (cs : List Char) : List Char :=
  ((cs.dropWhile isWhiteSpace).reverse.dropWhile isWhiteSpace).reverse

end LineRules.Text
