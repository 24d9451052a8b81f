/-
Tables of spans as sets of code points. A look-up stops at the first span that does not lie wholly below the
code point, so it is right only for spans in increasing order. Statements about all code points of a table are
then decided span by span: that two tables have no code point in common, or that one holds another, shows in
the bounds and the steps of their spans, and the tables are gone through once, side by side.
-/
import LineRules.Text.Span
import Mathlib.Data.List.Chain
import Mathlib.Data.List.TakeWhile
import Mathlib.Tactic.Common

namespace LineRules.Text

namespace Span

theorem holds_iff {s : Span} {n : Nat} :
    s.holds n = true ↔ s.first ≤ n ∧ n ≤ s.last ∧ (n - s.first) % s.step = 0 := by
  simp [holds, and_assoc]

/-- The code points of the span are all even or all odd. -/
def hasParity (s : Span) : Bool := s.step % 2 == 0 || s.first == s.last

theorem even_sub_first {s : Span} {n : Nat} (h : s.hasParity = true) (hn : s.holds n = true) : 2 ∣ n - s.first := by
  obtain ⟨h₁, h₂, h₃⟩ := holds_iff.1 hn
  rw [hasParity, Bool.or_eq_true, beq_iff_eq, beq_iff_eq] at h
  rcases h with even | single
  · exact Nat.dvd_trans (Nat.dvd_of_mod_eq_zero even) (Nat.dvd_of_mod_eq_zero h₃)
  · omega

/-- One span ends before the other begins, or one has even code points only and the other odd ones. -/
def apart (s t : Span) : Bool :=
  s.last < t.first || t.last < s.first ||
    (s.hasParity && t.hasParity && (s.first + t.first) % 2 == 1)

theorem not_holds_of_apart {s t : Span} {n : Nat} (h : s.apart t = true) (hs : s.holds n = true) :
    t.holds n = false := by
  rw [Bool.eq_false_iff]
  intro ht
  obtain ⟨s₁, s₂, -⟩ := holds_iff.1 hs
  obtain ⟨t₁, t₂, -⟩ := holds_iff.1 ht
  simp only [apart, Bool.or_eq_true, Bool.and_eq_true, decide_eq_true_eq, beq_iff_eq] at h
  rcases h with (h | h) | ⟨⟨hs₂, ht₂⟩, odd⟩
  · omega
  · omega
  · have := even_sub_first hs₂ hs
    have := even_sub_first ht₂ ht
    omega

/-- The code points of `t` are among those of `s`. -/
def covers (s t : Span) : Bool :=
  Nat.ble t.last s.last && Nat.ble s.first t.first && (t.first - s.first) % s.step == 0 &&
    t.step % s.step == 0

theorem holds_of_covers {s t : Span} {n : Nat} (h : s.covers t = true) (ht : t.holds n = true) :
    s.holds n = true := by
  obtain ⟨t₁, t₂, t₃⟩ := holds_iff.1 ht
  simp only [covers, Bool.and_eq_true, Nat.ble_eq, beq_iff_eq] at h
  obtain ⟨⟨⟨last, first⟩, offset⟩, steps⟩ := h
  refine holds_iff.2 ⟨by omega, by omega, Nat.mod_eq_zero_of_dvd ?_⟩
  have split : n - s.first = (n - t.first) + (t.first - s.first) := by omega
  rw [split]
  exact Nat.dvd_add (Nat.dvd_trans (Nat.dvd_of_mod_eq_zero steps) (Nat.dvd_of_mod_eq_zero t₃))
    (Nat.dvd_of_mod_eq_zero offset)

end Span

/-! ## Tables -/

/-- The span ends before the other begins. -/
def Span.Before (s t : Span) : Prop := s.first ≤ s.last ∧ s.last < t.first

instance (s t : Span) : Decidable (s.Before t) := inferInstanceAs (Decidable (_ ∧ _))

instance : Trans Span.Before Span.Before Span.Before where
  trans {s t u} hst htu := ⟨hst.1, by have := hst.2; have := htu.1; have := htu.2; omega⟩

/-- The spans of the table are in increasing order. -/
abbrev Increasing (table : List Span) : Prop := table.IsChain Span.Before

theorem Increasing.pairwise {table : List Span} (h : Increasing table) : table.Pairwise Span.Before :=
  List.isChain_iff_pairwise.1 h

theorem exists_of_spansHold {table : List Span} {n : Nat} (h : spansHold table n = true) :
    ∃ s ∈ table, s.holds n = true := by
  induction table with
  | nil => cases h
  | cons s rest ih =>
    rw [spansHold] at h
    split at h
    · obtain ⟨t, ht, hn⟩ := ih h
      exact ⟨t, List.mem_cons_of_mem s ht, hn⟩
    · exact ⟨s, List.mem_cons_self, h⟩

theorem Increasing.spansHold {table : List Span} (h : Increasing table) {s : Span} {n : Nat} (hs : s ∈ table)
    (hn : s.holds n = true) : spansHold table n = true := by
  replace h := h.pairwise
  induction table with
  | nil => cases hs
  | cons t rest ih =>
    obtain ⟨below, increasing⟩ := List.pairwise_cons.1 h
    rw [Text.spansHold]
    rcases List.mem_cons.1 hs with rfl | hs
    · rw [if_neg (by have := (Span.holds_iff.1 hn).2.1; omega), hn]
    · have := (below s hs).2
      rw [if_pos (by have := (Span.holds_iff.1 hn).1; omega)]
      exact ih hs increasing

/-! ## Comparing tables -/

/-- No span of the one table meets one of the other. -/
def spansApart : List Span → List Span → Bool
  | [], _ => true
  | s :: rest, table =>
    let ahead := table.dropWhile (·.last < s.first)
    (ahead.takeWhile (·.first ≤ s.last)).all s.apart && spansApart rest ahead

theorem mem_dropWhile {α : Type} {p : α → Bool} {l : List α} {x : α} (hx : x ∈ l) (hp : p x = false) :
    x ∈ l.dropWhile p := by
  rw [← List.takeWhile_append_dropWhile (p := p) (l := l)] at hx
  rcases List.mem_append.1 hx with hx | hx
  · exact absurd (List.mem_takeWhile_imp hx) (by simp [hp])
  · exact hx

theorem mem_takeWhile {u : List Span} (h : Increasing u) {t : Span} (ht : t ∈ u) {bound : Nat}
    (hb : t.first ≤ bound) : t ∈ u.takeWhile (·.first ≤ bound) := by
  replace h := h.pairwise
  induction u with
  | nil => cases ht
  | cons s rest ih =>
    obtain ⟨below, increasing⟩ := List.pairwise_cons.1 h
    rcases List.mem_cons.1 ht with rfl | ht
    · simp [hb]
    · obtain ⟨_, _⟩ := below t ht
      rw [List.takeWhile_cons_of_pos (by simp; omega)]
      exact List.mem_cons_of_mem s (ih ht increasing)

/-- Tables that are apart have no code point in common. -/
theorem not_holds_of_spansApart {t u : List Span} (ht : Increasing t) (hu : Increasing u)
    (h : spansApart t u = true) {s v : Span} (hs : s ∈ t) (hv : v ∈ u) {n : Nat} (hn : s.holds n = true) :
    v.holds n = false := by
  rw [Bool.eq_false_iff]
  intro hvn
  obtain ⟨s₁, s₂, -⟩ := Span.holds_iff.1 hn
  obtain ⟨v₁, v₂, -⟩ := Span.holds_iff.1 hvn
  replace ht := ht.pairwise
  induction t generalizing u with
  | nil => cases hs
  | cons first rest ih =>
    obtain ⟨below, increasing⟩ := List.pairwise_cons.1 ht
    rw [spansApart, Bool.and_eq_true, List.all_eq_true] at h
    -- what is dropped ends before the first span, so it holds none of the code points still to come
    have ahead : Increasing (u.dropWhile (·.last < first.first)) :=
      List.IsChain.sublist hu (List.dropWhile_sublist _)
    have reaches : first.first ≤ n := by
      rcases List.mem_cons.1 hs with rfl | hs
      · exact s₁
      · obtain ⟨_, _⟩ := below s hs
        omega
    have kept : v ∈ u.dropWhile (·.last < first.first) := mem_dropWhile hv (by simp; omega)
    rcases List.mem_cons.1 hs with rfl | hs
    · have := Span.not_holds_of_apart (h.1 v (mem_takeWhile ahead kept (by omega))) hn
      rw [this] at hvn
      cases hvn
    · exact ih ahead h.2 hs kept increasing

/-- Every span of the one table lies in a span of the other. -/
def spansWithin : List Span → List Span → Bool
  | [], _ => true
  | s :: rest, table =>
    let ahead := table.dropWhile (·.last < s.first)
    ahead.head?.any (·.covers s) && spansWithin rest ahead

theorem exists_covers_of_spansWithin {t u : List Span} (h : spansWithin t u = true) {s : Span} (hs : s ∈ t) :
    ∃ v ∈ u, v.covers s = true := by
  induction t generalizing u with
  | nil => cases hs
  | cons first rest ih =>
    rw [spansWithin, Bool.and_eq_true] at h
    have sub := List.dropWhile_sublist (l := u) (·.last < first.first)
    rcases List.mem_cons.1 hs with rfl | hs
    · obtain ⟨v, hv, covers⟩ := (Option.any_eq_true _ _).1 h.1
      exact ⟨v, sub.subset (List.mem_of_head? hv), covers⟩
    · obtain ⟨v, hv, covers⟩ := ih h.2 hs
      exact ⟨v, sub.subset hv, covers⟩

/-- The table holds every code point of the span: one of its spans covers it, or the span has no code points
but its first and its last. -/
def spansCover (table : List Span) (s : Span) : Bool :=
  table.any (·.covers s) ||
    (s.last ≤ s.first + s.step && spansHold table s.first && spansHold table s.last)

theorem spansHold_of_spansCover {table : List Span} (ht : Increasing table) {s : Span}
    (h : spansCover table s = true) {n : Nat} (hn : s.holds n = true) : spansHold table n = true := by
  rw [spansCover, Bool.or_eq_true, List.any_eq_true] at h
  rcases h with ⟨t, mem, covers⟩ | h
  · exact ht.spansHold mem (Span.holds_of_covers covers hn)
  · simp only [Bool.and_eq_true, decide_eq_true_eq] at h
    obtain ⟨⟨short, first⟩, last⟩ := h
    obtain ⟨h₁, h₂, h₃⟩ := Span.holds_iff.1 hn
    by_cases start : n = s.first
    · rw [start, first]
    · -- a whole step after the first code point there is the last one
      have step : s.step ≤ n - s.first := Nat.le_of_dvd (by omega) (Nat.dvd_of_mod_eq_zero h₃)
      have : n = s.last := by omega
      rw [this, last]

/-! ## Shifts -/

/-- Where the shift moves its code points to. -/
def Shift.image (s : Shift) : Span := ⟨s.target, s.target + (s.last - s.first), s.step⟩

theorem exists_of_shifted? {shifts : List Shift} {n code : Nat} (h : shifted? shifts n = some code) :
    ∃ s ∈ shifts, s.span.holds n = true ∧ s.image.holds code = true := by
  induction shifts with
  | nil => cases h
  | cons s rest ih =>
    rw [shifted?] at h
    split at h
    · obtain ⟨t, ht, hn⟩ := ih h
      exact ⟨t, List.mem_cons_of_mem s ht, hn⟩
    · split at h
      · rename_i hn
        cases h
        obtain ⟨h₁, h₂, h₃⟩ := Span.holds_iff.1 hn
        simp only [Shift.span] at h₁ h₂ h₃
        refine ⟨s, List.mem_cons_self, hn, Span.holds_iff.2 ⟨?_, ?_, ?_⟩⟩
        · simp only [Shift.image]
          omega
        · simp only [Shift.image]
          omega
        · simpa [Shift.image] using h₃
      · cases h

end LineRules.Text
