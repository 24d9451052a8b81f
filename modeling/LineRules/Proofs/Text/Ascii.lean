/-
The characters of ASCII. Of them the tables know what everyone knows: the letters and the digits, which letters
are large and which are small, and that a letter of one case becomes one of the other.
-/
import LineRules.Text.Alphanumeric
import LineRules.Text.CaseMapping
import LineRules.Text.Decimal
import Mathlib.Tactic.Common

namespace LineRules.Text

/-- A character of ASCII. -/
def IsAscii (c : Char) : Prop := c.toNat < 128

instance (c : Char) : Decidable (IsAscii c) := inferInstanceAs (Decidable (_ < _))

/-- A text of ASCII, told character by character. -/
theorem ascii_of_all {cs : List Char} (h : (cs.all fun c => decide (IsAscii c)) = true) : ∀ c ∈ cs, IsAscii c := by
  simpa using h

/-- What holds of 128 characters holds of ASCII. -/
@[elab_as_elim]
theorem IsAscii.induction {P : Char → Prop} {c : Char} (hc : IsAscii c) (h : ∀ n : Fin 128, P (Char.ofNat n)) :
    P c := by
  have := h ⟨c.toNat, hc⟩
  rwa [Char.ofNat_toNat] at this

/-- All that is looked up in the tables. -/
theorem tables_ascii {c : Char} (h : IsAscii c) :
    isAlphanumeric c = c.isAlphanum ∧ lowerChar c = [c.toLower] ∧ upperChar c = [c.toUpper] ∧
      (c.toLower = c ↔ isUppercase c = false) ∧ (isLowercase c = false → c.toUpper = c) ∧
      (isAlphanumeric c = true →
        (IsAscii c.toUpper ∧ isAlphanumeric c.toUpper = true ∧ isLowercase c.toUpper = false) ∧
        (IsAscii c.toLower ∧ isAlphanumeric c.toLower = true ∧ isUppercase c.toLower = false) ∧
        ((isUppercase c = true ∧ isLowercase c = false ∧ isDigit c = false) ∨
          (isUppercase c = false ∧ isLowercase c = true ∧ isDigit c = false) ∨
          (isUppercase c = false ∧ isLowercase c = false ∧ isDigit c = true))) :=
  h.induction (by decide +kernel)

section

variable {c : Char} (h : IsAscii c)

include h

theorem isAlphanumeric_ascii : isAlphanumeric c = c.isAlphanum := (tables_ascii h).1

theorem lowerChar_ascii : lowerChar c = [c.toLower] := (tables_ascii h).2.1

theorem upperChar_ascii : upperChar c = [c.toUpper] := (tables_ascii h).2.2.1

theorem toLower_eq_self_iff : c.toLower = c ↔ isUppercase c = false := (tables_ascii h).2.2.2.1

theorem toUpper_eq_self (large : isLowercase c = false) : c.toUpper = c := (tables_ascii h).2.2.2.2.1 large

theorem toUpper_ascii (letter : isAlphanumeric c = true) :
    IsAscii c.toUpper ∧ isAlphanumeric c.toUpper = true ∧ isLowercase c.toUpper = false :=
  ((tables_ascii h).2.2.2.2.2 letter).1

theorem toLower_ascii (letter : isAlphanumeric c = true) :
    IsAscii c.toLower ∧ isAlphanumeric c.toLower = true ∧ isUppercase c.toLower = false :=
  ((tables_ascii h).2.2.2.2.2 letter).2.1

/-- A large letter, a small letter or a digit. -/
theorem classes_ascii (letter : isAlphanumeric c = true) :
    (isUppercase c = true ∧ isLowercase c = false ∧ isDigit c = false) ∨
      (isUppercase c = false ∧ isLowercase c = true ∧ isDigit c = false) ∨
      (isUppercase c = false ∧ isLowercase c = false ∧ isDigit c = true) :=
  ((tables_ascii h).2.2.2.2.2 letter).2.2

end

theorem lowerAfter_ascii {cs : List Char} (h : ∀ c ∈ cs, IsAscii c) (before : List Char) :
    lowerAfter before cs = cs.map Char.toLower := by
  induction cs generalizing before with
  | nil => rfl
  | cons c rest ih =>
    obtain ⟨hc, hr⟩ := List.forall_mem_cons.1 h
    have other : c ≠ 'Σ' := by
      rintro rfl
      revert hc
      decide
    rw [lowerAfter, if_neg other, lowerChar_ascii hc, ih hr, List.map_cons, List.singleton_append]

theorem upper_ascii {cs : List Char} (h : ∀ c ∈ cs, IsAscii c) : upper cs = cs.map Char.toUpper := by
  induction cs with
  | nil => rfl
  | cons c rest ih =>
    obtain ⟨hc, hr⟩ := List.forall_mem_cons.1 h
    have rest := ih hr
    rw [upper] at rest ⊢
    rw [List.flatMap_cons, upperChar_ascii hc, rest, List.map_cons, List.singleton_append]

end LineRules.Text
