/-
Which characters the names of a naming policy are made of. The words of a name hold letters and
numbers only, and no mapping of case makes punctuation of them: whatever the case tables move a
character to lies at `A` or beyond. So of the signs in front of `A` only digits occur in a normal
form, and above all no dot, which keeps the segments of a qualified path apart.
-/
import LineRules.Naming
import Mathlib.Tactic.Common

namespace LineRules

namespace Text

/-! ## Mapping of case -/

/-- A sign in front of the letters: a digit, a blank or a punctuation mark. -/
def IsSign (c : Char) : Prop := 0 < c.toNat ∧ c.toNat < 0x41

theorem not_isSign_ofNat {code : Nat} (h : 0x41 ≤ code) : ¬ IsSign (Char.ofNat code) := by
  rintro ⟨pos, lt⟩
  by_cases valid : code.isValidChar
  · have value : (Char.ofNat code).toNat = code := by
      rw [Char.ofNat, dif_pos valid]
      rfl
    omega
  · -- a number that is no code point stands for the null character
    have value : (Char.ofNat code).toNat = 0 := by
      rw [Char.ofNat, dif_neg valid]
      rfl
    omega

theorem le_shifted {shifts : List Shift} {bound n code : Nat} (h : ∀ s ∈ shifts, bound ≤ s.target)
    (hs : shifted? shifts n = some code) : bound ≤ code := by
  induction shifts with
  | nil => cases hs
  | cons s rest ih =>
    rw [shifted?] at hs
    split at hs
    · exact ih (fun s' hs' => h s' (List.mem_cons_of_mem s hs')) hs
    · split at hs <;> cases hs
      exact Nat.le_add_right_of_le (h s List.mem_cons_self)

/-- A table that moves characters to letters and beyond leaves no sign but those it was given. -/
theorem eq_of_isSign_of_mem_mapChar {expansions : List (Nat × List Nat)} {shifts : List Shift} {c x : Char}
    (he : ∀ e ∈ expansions, ∀ code ∈ e.2, 0x41 ≤ code) (hs : ∀ s ∈ shifts, 0x41 ≤ s.target)
    (hx : IsSign x) (h : x ∈ mapChar expansions shifts c) : x = c := by
  unfold mapChar at h
  split at h
  · rename_i codes hl
    obtain ⟨code, hcode, rfl⟩ := List.mem_map.1 h
    obtain ⟨before, after, hsplit, -⟩ := List.lookup_eq_some_iff.1 hl
    have hmem : (c.toNat, codes) ∈ expansions := by simp [hsplit]
    exact absurd hx (not_isSign_ofNat (he _ hmem code hcode))
  · split at h
    · rename_i code hc
      obtain rfl := List.mem_singleton.1 h
      exact absurd hx (not_isSign_ofNat (le_shifted hs hc))
    · exact List.mem_singleton.1 h

theorem eq_of_isSign_of_mem_lowerChar {c x : Char} (hx : IsSign x) (h : x ∈ lowerChar c) : x = c :=
  eq_of_isSign_of_mem_mapChar (by decide +kernel) (by decide +kernel) hx h

theorem eq_of_isSign_of_mem_upperChar {c x : Char} (hx : IsSign x) (h : x ∈ upperChar c) : x = c :=
  eq_of_isSign_of_mem_mapChar (by decide +kernel) (by decide +kernel) hx h

theorem mem_of_isSign_of_mem_lowerAfter {before cs : List Char} {x : Char} (hx : IsSign x)
    (h : x ∈ lowerAfter before cs) : x ∈ cs := by
  induction cs generalizing before with
  | nil => cases h
  | cons c rest ih =>
    rcases List.mem_append.1 h with h | h
    · split at h
      · -- neither form of a small sigma is a sign
        obtain rfl := List.mem_singleton.1 h
        revert hx
        split <;> intro hx <;> exact absurd hx.2 (by decide)
      · exact eq_of_isSign_of_mem_lowerChar hx h ▸ List.mem_cons_self
    · exact List.mem_cons_of_mem c (ih h)

theorem mem_of_isSign_of_mem_upper {cs : List Char} {x : Char} (hx : IsSign x) (h : x ∈ upper cs) : x ∈ cs := by
  obtain ⟨c, hc, h⟩ := List.mem_flatMap.1 h
  exact eq_of_isSign_of_mem_upperChar hx h ▸ hc

end Text

namespace Naming

open Text

/-! ## Words -/

/-- Words hold letters and numbers only. -/
theorem isAlphanumeric_of_mem_words {name word : List Char} {x : Char} (hw : word ∈ words name) (hx : x ∈ word) :
    isAlphanumeric x = true := by
  induction name generalizing word with
  | nil => cases hw
  | cons c rest ih =>
    rw [words] at hw
    split at hw
    · exact ih hw hx
    · rename_i hc
      have hc : isAlphanumeric c = true := by simpa using hc
      -- the word ends at `c`, goes on after it, or comes later
      have single : x ∈ [c] → isAlphanumeric x = true := fun h => List.mem_singleton.1 h ▸ hc
      split at hw
      · split at hw
        · exact single (List.mem_singleton.1 hw ▸ hx)
        · rename_i first others hr
          rw [hr] at ih
          rcases List.mem_cons.1 hw with rfl | hw
          · rcases List.mem_cons.1 hx with rfl | hx
            · exact hc
            · exact ih List.mem_cons_self hx
          · exact ih (List.mem_cons_of_mem first hw) hx
      · rcases List.mem_cons.1 hw with rfl | hw
        · exact single hx
        · exact ih hw hx

theorem mem_underscored {ws : List (List Char)} {x : Char} (h : x ∈ underscored ws) :
    x = '_' ∨ ∃ word ∈ ws, x ∈ word := by
  induction ws with
  | nil => cases h
  | cons word rest ih =>
    cases rest with
    | nil => exact .inr ⟨word, List.mem_singleton_self word, h⟩
    | cons next rest =>
      rcases List.mem_append.1 h with h | h
      · exact .inr ⟨word, List.mem_cons_self, h⟩
      · rcases List.mem_cons.1 h with rfl | h
        · exact .inl rfl
        · rcases ih h with rfl | ⟨w, hw, hx⟩
          · exact .inl rfl
          · exact .inr ⟨w, List.mem_cons_of_mem word hw, hx⟩

theorem mem_of_isSign_of_mem_capitalized {word : List Char} {x : Char} (hx : IsSign x)
    (h : x ∈ capitalized word) : x ∈ word := by
  unfold capitalized at h
  split at h
  · exact mem_of_isSign_of_mem_upper hx h
  · cases word with
    | nil => cases h
    | cons c rest =>
      rcases List.mem_append.1 h with h | h
      · exact eq_of_isSign_of_mem_upperChar hx h ▸ List.mem_cons_self
      · exact List.mem_cons_of_mem c (mem_of_isSign_of_mem_lowerAfter hx h)

end Naming

namespace NamingPolicy

open Text Naming

/-! ## Normal forms -/

/-- The signs of a normal form are letters or numbers. -/
theorem isAlphanumeric_of_mem_normalize (policy : NamingPolicy) (name : String) {x : Char} (hx : IsSign x)
    (h : x ∈ (policy.normalize name).toList) : isAlphanumeric x = true := by
  cases policy with
  | snake =>
    rw [normalize, String.toList_ofList] at h
    rcases mem_underscored h with rfl | ⟨lowered, hl, h⟩
    · exact absurd hx.2 (by decide)
    · obtain ⟨word, hw, rfl⟩ := List.mem_map.1 hl
      exact isAlphanumeric_of_mem_words hw (mem_of_isSign_of_mem_lowerAfter hx h)
  | camel =>
    rw [normalize, String.toList_ofList] at h
    obtain ⟨word, hw, h⟩ := List.mem_flatMap.1 h
    exact isAlphanumeric_of_mem_words hw (mem_of_isSign_of_mem_capitalized hx h)

/-- A normal form holds no dot. -/
theorem dot_notMem_normalize (policy : NamingPolicy) (name : String) : '.' ∉ (policy.normalize name).toList := by
  intro h
  have sign : IsSign '.' := ⟨by decide, by decide⟩
  have := isAlphanumeric_of_mem_normalize policy name sign h
  revert this
  decide +kernel

end NamingPolicy

end LineRules
