/-
Numbers read back from their digits. The digits of a number, in a base up to sixteen, have the number as
their value; so whoever takes up digits as long as there are any finds the number, if no digit follows it.
-/
import LineRules.Text.Decimal
import Mathlib.Data.List.TakeWhile

namespace LineRules.Text

/-! ## Values -/

theorem digitValue?_digitChar {d : Nat} (h : d < 16) : digitValue? d.digitChar = some d := by
  revert d
  decide

theorem valueOf_concat (base : Nat) (ds : List Char) (d : Char) :
    valueOf base (ds ++ [d]) = base * valueOf base ds + (digitValue? d).getD 0 := by
  simp only [valueOf, List.foldl_append, List.foldl_cons, List.foldl_nil]

/-- The value of the digits of a number is the number. -/
theorem valueOf_toDigits {base : Nat} (hb : 1 < base) (hs : base ≤ 16) (n : Nat) :
    valueOf base (Nat.toDigits base n) = n := by
  induction n using Nat.base_induction base hb with
  | single d hd =>
    rw [Nat.toDigits_of_lt_base hd]
    have := valueOf_concat base [] d.digitChar
    rw [digitValue?_digitChar (by omega)] at this
    simpa [valueOf] using this
  | digit n d hd hn ih =>
    rw [← Nat.toDigits_append_toDigits hb hn hd, Nat.toDigits_of_lt_base hd, valueOf_concat, ih,
      digitValue?_digitChar (by omega)]
    rfl

/-! ## Characters -/

theorem eq_digitChar_of_mem_toDigits {base : Nat} (hb : 1 < base) {n : Nat} {c : Char} (h : c ∈ Nat.toDigits base n) :
    ∃ d, d < base ∧ c = d.digitChar := by
  induction n using Nat.base_induction base hb with
  | single d hd =>
    rw [Nat.toDigits_of_lt_base hd, List.mem_singleton] at h
    exact ⟨d, hd, h⟩
  | digit n d hd hn ih =>
    rw [← Nat.toDigits_append_toDigits hb hn hd, Nat.toDigits_of_lt_base hd, List.mem_append,
      List.mem_singleton] at h
    rcases h with h | h
    · exact ih h
    · exact ⟨d, hd, h⟩

theorem isDigit_of_mem_toDigits {n : Nat} {c : Char} (h : c ∈ Nat.toDigits 10 n) : isDigit c = true := by
  have each : ∀ d < 10, isDigit d.digitChar = true := by decide
  obtain ⟨d, hd, rfl⟩ := eq_digitChar_of_mem_toDigits (by decide) h
  exact each d hd

/-- Only the number zero begins with the digit zero. -/
theorem toDigits_head_ne_zero {n : Nat} {ds : List Char} (h : Nat.toDigits 10 n = '0' :: ds) : n = 0 := by
  induction n using Nat.base_induction 10 (by decide) generalizing ds with
  | single d hd =>
    rw [Nat.toDigits_of_lt_base hd] at h
    exact Nat.digitChar_eq_zero.1 (List.cons.inj h).1
  | digit n d hd hn ih =>
    rw [← Nat.toDigits_append_toDigits (by decide) hn hd] at h
    -- the first digit is that of the leading part, which is not zero
    cases lead : Nat.toDigits 10 n with
    | nil => exact absurd lead Nat.toDigits_ne_nil
    | cons c cs =>
      rw [lead, List.cons_append] at h
      obtain ⟨rfl, -⟩ := List.cons.inj h
      have := ih lead
      omega

/-! ## Runs of characters -/

/-- No character of a class comes next. -/
def Stops (p : Char → Bool) (rest : List Char) : Prop := ∀ c ∈ rest.head?, p c = false

section

variable {p : Char → Bool} {run rest : List Char}

/-- As many characters of a class as there are: all those of a run, if it stops there. -/
theorem takeWhile_run (h : ∀ c ∈ run, p c = true) (stops : Stops p rest) : (run ++ rest).takeWhile p = run := by
  rw [List.takeWhile_append_of_pos h]
  cases rest with
  | nil => simp
  | cons c rest => simp [stops c rfl]

theorem dropWhile_run (h : ∀ c ∈ run, p c = true) (stops : Stops p rest) : (run ++ rest).dropWhile p = rest := by
  rw [List.dropWhile_append_of_pos h]
  cases rest with
  | nil => rfl
  | cons c rest => simp [stops c rfl]

end

end LineRules.Text
