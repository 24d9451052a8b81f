/-
Small forms of letters. The small form of a letter is of lower case, and lower case has no further small form;
so a text in lower case stays as it is when it is lowered again, whatever stands around its letters. Two things
are out of line: `İ` becomes an `i` and a combining dot, which is no letter, and some letters of upper case have
no small form at all.
-/
import LineRules.Proofs.Text.Spans
import LineRules.Text.Alphanumeric
import LineRules.Text.CaseMapping

namespace LineRules.Text

/-! ## What the tables say of each other -/

/-- The tables are in order, and what they say of lower case, told by running along them. -/
theorem lowercase_tables :
    (Increasing lowercaseSpans ∧ Increasing uppercaseSpans ∧ Increasing alphabeticSpans ∧
        Increasing (lowerShifts.map Shift.span)) ∧
      spansWithin lowercaseSpans alphabeticSpans = true ∧
      spansApart lowercaseSpans uppercaseSpans = true ∧
      spansApart lowercaseSpans (lowerShifts.map Shift.span) = true ∧
      (lowerShifts.all fun s => spansCover lowercaseSpans s.image) = true ∧
      ∀ s ∈ lowercaseSpans, s.last < 0xD800 ∨ 0xDFFF < s.first ∧ s.last < 0x110000 := by
  decide +kernel

theorem isAlphanumeric_of_isLowercase {c : Char} (h : isLowercase c = true) : isAlphanumeric c = true := by
  obtain ⟨⟨-, -, increasing, -⟩, within, -⟩ := lowercase_tables
  obtain ⟨s, hs, hc⟩ := exists_of_spansHold h
  obtain ⟨t, ht, covers⟩ := exists_covers_of_spansWithin within hs
  have alphabetic : isAlphabetic c = true := increasing.spansHold ht (Span.holds_of_covers covers hc)
  rw [isAlphanumeric, alphabetic, Bool.true_or]

theorem isUppercase_of_isLowercase {c : Char} (h : isLowercase c = true) : isUppercase c = false := by
  obtain ⟨⟨lowercase, uppercase, -⟩, -, apart, -⟩ := lowercase_tables
  rw [Bool.eq_false_iff]
  intro upper
  obtain ⟨s, hs, hc⟩ := exists_of_spansHold h
  obtain ⟨t, ht, hc'⟩ := exists_of_spansHold upper
  rw [not_holds_of_spansApart lowercase uppercase apart hs ht hc] at hc'
  cases hc'

/-- Letters are moved to letters of lower case. -/
theorem spansHold_of_shifted? {n code : Nat} (h : shifted? lowerShifts n = some code) :
    spansHold lowercaseSpans code = true := by
  obtain ⟨⟨lowercase, -⟩, -, -, -, cover, -⟩ := lowercase_tables
  obtain ⟨s, hs, -, hc⟩ := exists_of_shifted? h
  exact spansHold_of_spansCover lowercase (List.all_eq_true.1 cover s hs) hc

theorem shifted?_of_isLowercase {c : Char} (h : isLowercase c = true) : shifted? lowerShifts c.toNat = none := by
  obtain ⟨⟨lowercase, -, -, shifts⟩, -, -, apart, -⟩ := lowercase_tables
  rw [Option.eq_none_iff_forall_ne_some]
  intro code moved
  obtain ⟨s, hs, hc⟩ := exists_of_spansHold h
  obtain ⟨t, ht, hc', -⟩ := exists_of_shifted? moved
  rw [not_holds_of_spansApart lowercase shifts apart hs (List.mem_map_of_mem ht) hc] at hc'
  cases hc'

/-- The code points of lower case are those of characters. -/
theorem isLowercase_ofNat {code : Nat} (h : spansHold lowercaseSpans code = true) :
    isLowercase (Char.ofNat code) = true := by
  obtain ⟨-, -, -, -, -, scalars⟩ := lowercase_tables
  obtain ⟨s, hs, hc⟩ := exists_of_spansHold h
  obtain ⟨first, last, -⟩ := Span.holds_iff.1 hc
  have valid : code.isValidChar := by
    rcases scalars s hs with below | above
    · exact .inl (by omega)
    · exact .inr ⟨by omega, by omega⟩
  have value : (Char.ofNat code).toNat = code := by
    rw [Char.ofNat, dif_pos valid]
    rfl
  rw [isLowercase, value, h]

/-! ## Characters -/

/-- The character becomes another in lower case. -/
def hasSmallForm (c : Char) : Bool := lowerChar c != [c]

/-- The letters that are treated apart, and what they become. -/
theorem letters_apart :
    lowerChar 'İ' = ['i', '\u0307'] ∧ isLowercase 'İ' = false ∧ isLowercase 'i' = true ∧
      isAlphanumeric '\u0307' = false ∧ hasSmallForm '\u0307' = false ∧
      hasSmallForm 'Σ' = true ∧ isLowercase 'σ' = true ∧ isLowercase 'ς' = true := by
  decide +kernel

theorem lowerChar_eq_self {c : Char} (h : hasSmallForm c = false) : lowerChar c = [c] := by
  simpa [hasSmallForm] using h

theorem lookup_lowerExpansions {c : Char} (h : c ≠ 'İ') : lowerExpansions.lookup c.toNat = none := by
  have code : c.toNat ≠ 0x130 := fun code => h (Char.ext (UInt32.toNat_inj.1 code))
  rw [List.lookup_eq_none_iff]
  simp [lowerExpansions, code]

/-- A small form is a single letter of lower case, but for `İ`. -/
theorem lowerChar_of_hasSmallForm {c : Char} (h : hasSmallForm c = true) (hc : c ≠ 'İ') :
    ∃ d, lowerChar c = [d] ∧ isLowercase d = true := by
  have other := lookup_lowerExpansions hc
  rw [lowerChar, mapChar, other]
  cases moved : shifted? lowerShifts c.toNat with
  | none => simp [hasSmallForm, lowerChar, mapChar, other, moved] at h
  | some code => exact ⟨Char.ofNat code, rfl, isLowercase_ofNat (spansHold_of_shifted? moved)⟩

theorem hasSmallForm_of_isLowercase {c : Char} (h : isLowercase c = true) : hasSmallForm c = false := by
  obtain ⟨-, large, -⟩ := letters_apart
  have other : c ≠ 'İ' := by
    rintro rfl
    rw [large] at h
    cases h
  simp [hasSmallForm, lowerChar, mapChar, lookup_lowerExpansions other, shifted?_of_isLowercase h]

/-! ## Texts -/

/-- What a letter other than `İ` becomes in lower case, wherever it stands. -/
def Lowered (c d : Char) : Prop := if hasSmallForm c then isLowercase d = true else d = c

theorem forall₂_lowerAfter {cs : List Char} (h : 'İ' ∉ cs) (before : List Char) :
    List.Forall₂ Lowered cs (lowerAfter before cs) := by
  obtain ⟨-, -, -, -, -, sigma, inside, final⟩ := letters_apart
  induction cs generalizing before with
  | nil => exact .nil
  | cons c rest ih =>
    obtain ⟨hc, hr⟩ := not_or.1 (mt List.mem_cons.2 h)
    have rest := ih hr (c :: before)
    rw [lowerAfter]
    split
    · -- whichever of the two small sigmas it is
      rename_i eq
      refine .cons ?_ rest
      rw [Lowered, eq, if_pos sigma]
      split
      · exact final
      · exact inside
    · cases small : hasSmallForm c with
      | false =>
        rw [lowerChar_eq_self small]
        exact .cons (by simp [Lowered, small]) rest
      | true =>
        obtain ⟨d, hd, lowercase⟩ := lowerChar_of_hasSmallForm small (Ne.symm hc)
        rw [hd]
        exact .cons (by simp [Lowered, small, lowercase]) rest

/-- A character of a text in lower case was there before, or is of lower case, or is the dot of `İ`. -/
theorem mem_lowerAfter {cs before : List Char} {x : Char} (h : x ∈ lowerAfter before cs) :
    (x ∈ cs ∧ hasSmallForm x = false) ∨ isLowercase x = true ∨ x = '\u0307' := by
  obtain ⟨expands, -, small, -, -, -, inside, final⟩ := letters_apart
  induction cs generalizing before with
  | nil => cases h
  | cons c rest ih =>
    rcases List.mem_append.1 h with h | h
    · split at h
      · obtain rfl := List.mem_singleton.1 h
        refine .inr (.inl ?_)
        split
        · exact final
        · exact inside
      · cases form : hasSmallForm c with
        | false =>
          rw [lowerChar_eq_self form, List.mem_singleton] at h
          subst h
          exact .inl ⟨List.mem_cons_self, form⟩
        | true =>
          by_cases dotted : c = 'İ'
          · rw [dotted, expands] at h
            rcases List.mem_pair.1 h with rfl | rfl
            · exact .inr (.inl small)
            · exact .inr (.inr rfl)
          · obtain ⟨d, hd, lowercase⟩ := lowerChar_of_hasSmallForm form dotted
            rw [hd, List.mem_singleton] at h
            exact .inr (.inl (h ▸ lowercase))
    · rcases ih h with ⟨mem, form⟩ | h
      · exact .inl ⟨List.mem_cons_of_mem c mem, form⟩
      · exact .inr h

theorem dot_mem_lowerAfter {cs : List Char} (h : 'İ' ∈ cs) (before : List Char) :
    '\u0307' ∈ lowerAfter before cs := by
  obtain ⟨expands, -⟩ := letters_apart
  induction cs generalizing before with
  | nil => cases h
  | cons c rest ih =>
    rw [lowerAfter]
    rcases List.mem_cons.1 h with rfl | h
    · exact List.mem_append_left _ (by simp [expands])
    · exact List.mem_append_right _ (ih h _)

/-- Nothing that has been lowered has a small form. -/
theorem hasSmallForm_of_mem_lowerAfter {cs before : List Char} {x : Char} (h : x ∈ lowerAfter before cs) :
    hasSmallForm x = false := by
  rcases mem_lowerAfter h with ⟨-, small⟩ | lowercase | rfl
  · exact small
  · exact hasSmallForm_of_isLowercase lowercase
  · exact letters_apart.2.2.2.2.1

/-- A text without small forms to take stays as it is. -/
theorem lowerAfter_eq_self {cs : List Char} (h : ∀ c ∈ cs, hasSmallForm c = false) (before : List Char) :
    lowerAfter before cs = cs := by
  induction cs generalizing before with
  | nil => rfl
  | cons c rest ih =>
    obtain ⟨hc, hr⟩ := List.forall_mem_cons.1 h
    have other : c ≠ 'Σ' := by
      rintro rfl
      rw [letters_apart.2.2.2.2.2.1] at hc
      cases hc
    rw [lowerAfter, if_neg other, lowerChar_eq_self hc, ih hr, List.singleton_append]

end LineRules.Text
