/-
Quoted texts read back. An escape tells by its second character how long it is and what it stands for, and
every other character stands for itself; so a quoted text can be read from the left, up to the first quote
that is not part of an escape. Main statements: what is read is what was quoted, whatever follows the closing
quote, and a quoted text never holds a line break.
-/
import LineRules.Proofs.Text.Digits
import LineRules.Text.Quoted
import Mathlib.Tactic.Common

namespace LineRules.Text

/-! ## Reading -/

/-- What the second character of an escape stands for. -/
def unescapedChar (c : Char) : Char :=
  if c = '0' then '\x00' else if c = 't' then '\t' else if c = 'r' then '\r' else if c = 'n' then '\n' else c

/-- The character at the front of a quoted text, and the rest. A code point stands between braces. -/
def unescape : List Char → Option (Char × List Char)
  | '\\' :: 'u' :: _ :: rest =>
    some (Char.ofNat (valueOf 16 (rest.takeWhile (· != '\x7d'))), (rest.dropWhile (· != '\x7d')).tail)
  | '\\' :: c :: rest => some (unescapedChar c, rest)
  | c :: rest => some (c, rest)
  | [] => none

theorem length_of_unescape {cs rest : List Char} {c : Char} (h : unescape cs = some (c, rest)) :
    rest.length < cs.length := by
  unfold unescape at h
  split at h <;> cases h <;> simp only [List.length_cons, List.length_tail]
  · rename_i rest
    have := (List.dropWhile_sublist (· != '\x7d') (l := rest)).length_le
    omega
  all_goals omega

/-- The characters up to the closing quote, and what follows it. -/
def readQuoted (quote : Char) (cs : List Char) : Option (List Char × List Char) :=
  if cs.head? = some quote then some ([], cs.tail)
  else
    match _h : unescape cs with
    | none => none
    | some (c, rest) => (readQuoted quote rest).map fun r => (c :: r.1, r.2)
termination_by cs.length
decreasing_by exact length_of_unescape _h

/-! ## Characters -/

/-- The two kinds of quotes. -/
def IsQuote (c : Char) : Prop := c = '\'' ∨ c = '"'

variable {quote : Char}

/-- A quoted character: itself, an escape of two characters, or its code point. -/
theorem escaped_cases (hq : IsQuote quote) (c : Char) :
    (escaped quote c = [c] ∧ c ≠ '\\' ∧ c ≠ quote ∧ c ≠ '\n') ∨
    (∃ e, escaped quote c = ['\\', e] ∧ e ≠ 'u' ∧ e ≠ '\n' ∧ unescapedChar e = c) ∨
    escaped quote c = '\\' :: 'u' :: '\x7b' :: (hexadecimal c.toNat ++ ['\x7d']) := by
  unfold escaped
  split_ifs with null tab ret newline own printable
  · exact .inr (.inl ⟨'0', rfl, by decide, by decide, null.symm⟩)
  · exact .inr (.inl ⟨'t', rfl, by decide, by decide, tab.symm⟩)
  · exact .inr (.inl ⟨'r', rfl, by decide, by decide, ret.symm⟩)
  · exact .inr (.inl ⟨'n', rfl, by decide, by decide, newline.symm⟩)
  · refine .inr (.inl ⟨c, rfl, ?_⟩)
    -- a backslash or one of the quotes
    have : c = '\\' ∨ IsQuote c := own.imp_right fun h => h.symm.subst hq
    rcases this with rfl | rfl | rfl <;> decide
  · rw [not_or] at own
    exact .inl ⟨rfl, own.1, own.2, newline⟩
  · exact .inr (.inr rfl)

theorem ne_of_mem_hexadecimal {n : Nat} {c : Char} (h : c ∈ hexadecimal n) : c ≠ '\x7d' ∧ c ≠ '\n' := by
  have each : ∀ d < 16, Nat.digitChar d ≠ '\x7d' ∧ Nat.digitChar d ≠ '\n' := by decide
  obtain ⟨d, hd, rfl⟩ := eq_digitChar_of_mem_toDigits (by decide) h
  exact each d hd

/-- An escape is read as the character that it stands for. -/
theorem unescape_escaped (hq : IsQuote quote) (c : Char) (rest : List Char) :
    unescape (escaped quote c ++ rest) = some (c, rest) := by
  rcases escaped_cases hq c with ⟨h, hb, -⟩ | ⟨e, h, hu, -, rfl⟩ | h
  · rw [h, List.singleton_append, unescape]
    · exact fun _ _ he => absurd he hb
    · exact fun _ _ he => absurd he hb
  · rw [h, List.cons_append, List.singleton_append, unescape]
    exact fun _ _ he => absurd he hu
  · have digits : ∀ d ∈ hexadecimal c.toNat, (d != '\x7d') = true :=
      fun d hd => by simpa using (ne_of_mem_hexadecimal hd).1
    have stops : Stops (· != '\x7d') ('\x7d' :: rest) := by
      intro d hd
      cases hd
      rfl
    rw [h]
    simp only [List.cons_append, List.append_assoc, List.nil_append, unescape]
    rw [takeWhile_run digits stops, dropWhile_run digits stops, hexadecimal,
      valueOf_toDigits (by decide) (by decide), Char.ofNat_toNat]
    rfl

/-- A quoted character does not begin with the quote. -/
theorem head_escaped_ne (hq : IsQuote quote) (c : Char) (rest : List Char) :
    (escaped quote c ++ rest).head? ≠ some quote := by
  have backslash : '\\' ≠ quote := by rcases hq with rfl | rfl <;> decide
  rcases escaped_cases hq c with ⟨h, -, hc, -⟩ | ⟨e, h, -⟩ | h <;> rw [h]
  · simpa using hc
  · simpa using backslash
  · simpa using backslash

/-- No line is broken within a quoted character. -/
theorem newline_notMem_escaped (hq : IsQuote quote) (c : Char) : '\n' ∉ escaped quote c := by
  rcases escaped_cases hq c with ⟨h, -, -, hn⟩ | ⟨e, h, -, hn, -⟩ | h <;> rw [h]
  · simpa using hn.symm
  · simpa using hn.symm
  · have digits : '\n' ∉ hexadecimal c.toNat := fun hd => (ne_of_mem_hexadecimal hd).2 rfl
    simpa using digits

/-! ## Texts -/

/-- A quoted text is read back, up to its closing quote. -/
theorem readQuoted_escaped (hq : IsQuote quote) (cs rest : List Char) :
    readQuoted quote (cs.flatMap (escaped quote) ++ quote :: rest) = some (cs, rest) := by
  induction cs with
  | nil =>
    rw [readQuoted, List.flatMap_nil, List.nil_append, if_pos List.head?_cons]
    rfl
  | cons c cs ih =>
    rw [List.flatMap_cons, List.append_assoc, readQuoted, if_neg (head_escaped_ne hq c _)]
    split
    · rename_i h
      rw [unescape_escaped hq] at h
      cases h
    · rename_i h
      rw [unescape_escaped hq] at h
      cases h
      rw [ih]
      rfl

end LineRules.Text
