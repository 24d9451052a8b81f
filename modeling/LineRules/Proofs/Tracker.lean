/-
The checkpoint tracker against the list of paths registered so far. The tracker keeps the last path
and the scopes that were left, and forgets everything else; this is enough, for at any time a scope
is closed exactly if some path within it was followed by one outside. So a path is refused exactly if
it would come back to a scope that was left, and paths are all accepted exactly if every scope is
visited in one stretch.
-/
import LineRules.Proofs.Path
import LineRules.Tracker

namespace LineRules

namespace Path

/-- A path within the scope was followed by one outside. -/
def Left (history : List (List Char)) (scope : List Char) : Prop :=
  ∃ a b, [a, b].Sublist history ∧ within a scope = true ∧ within b scope = false

theorem sublist_concat_iff {α : Type} {l m : List α} {x y : α} :
    (l ++ [x]).Sublist (m ++ [y]) ↔ (l ++ [x]).Sublist m ∨ (l.Sublist m ∧ x = y) := by
  constructor
  · intro h
    have hr := List.reverse_sublist.2 h
    rw [List.reverse_concat, List.reverse_concat, List.sublist_cons_iff] at hr
    rcases hr with hr | ⟨r, hxr, hr⟩
    · exact .inl (List.reverse_sublist.1 (by rwa [List.reverse_concat]))
    · obtain ⟨rfl, rfl⟩ := List.cons.inj hxr
      exact .inr ⟨List.reverse_sublist.1 hr, rfl⟩
  · rintro (h | ⟨h, rfl⟩)
    · exact h.trans (List.sublist_append_left m [y])
    · exact h.append (List.Sublist.refl [x])

theorem left_concat_iff {history : List (List Char)} {path scope : List Char} :
    Left (history ++ [path]) scope ↔
      Left history scope ∨ ((∃ a ∈ history, within a scope = true) ∧ within path scope = false) := by
  constructor
  · rintro ⟨a, b, hab, ha, hb⟩
    rcases (sublist_concat_iff (l := [a])).1 hab with h | ⟨h, rfl⟩
    · exact .inl ⟨a, b, h, ha, hb⟩
    · exact .inr ⟨⟨a, List.singleton_sublist.1 h, ha⟩, hb⟩
  · rintro (⟨a, b, hab, ha, hb⟩ | ⟨⟨a, hmem, ha⟩, hb⟩)
    · exact ⟨a, b, hab.trans (List.sublist_append_left _ _), ha, hb⟩
    · exact ⟨a, path, (List.singleton_sublist.2 hmem).append (List.Sublist.refl [path]), ha, hb⟩

/-- One more path keeps the scopes in one stretch if it lies in none that was left. -/
theorem contiguous_concat_iff {history : List (List Char)} {path : List Char} :
    Contiguous (within · · = true) (history ++ [path]) ↔
      Contiguous (within · · = true) history ∧ ∀ scope, Left history scope → within path scope = false := by
  constructor
  · refine fun h => ⟨h.sublist (List.sublist_append_left _ _), ?_⟩
    rintro scope ⟨a, b, hab, ha, hb⟩
    refine Bool.eq_false_iff.2 fun hp => Bool.eq_false_iff.1 hb ?_
    exact h scope a b path (hab.append (List.Sublist.refl [path])) ha hp
  · rintro ⟨h, hleft⟩ scope a b c habc ha hc
    rcases (sublist_concat_iff (l := [a, b])).1 habc with habc | ⟨hab, rfl⟩
    · exact h scope a b c habc ha hc
    · by_cases hb : within b scope = true
      · exact hb
      · have hn := hleft scope ⟨a, b, hab, ha, by simpa using hb⟩
        exact absurd hc (Bool.eq_false_iff.1 hn)

theorem contiguous_nil : Contiguous (within · · = true) [] :=
  fun _ _ _ _ h => by cases h

end Path

namespace Tracker

open LineRules.Path

theorem mem_close {path scope : List Char} {scopes closed : List (List Char)} :
    scope ∈ close path scopes closed ↔ scope ∈ closed ∨ (scope ∈ scopes ∧ within path scope = false) := by
  induction scopes generalizing closed with
  | nil => simp [close]
  | cons first rest ih =>
    rw [close]
    split <;> rename_i h <;> rw [ih] <;> simp only [List.mem_append, List.mem_cons, List.not_mem_nil, or_false]
    · simp only [Bool.and_eq_true, Bool.not_eq_true'] at h
      constructor
      · rintro ((hc | rfl) | ⟨hr, hw⟩)
        · exact .inl hc
        · exact .inr ⟨.inl rfl, h.1⟩
        · exact .inr ⟨.inr hr, hw⟩
      · rintro (hc | ⟨rfl | hr, hw⟩)
        · exact .inl (.inl hc)
        · exact .inl (.inr rfl)
        · exact .inr ⟨hr, hw⟩
    · constructor
      · rintro (hc | ⟨hr, hw⟩)
        · exact .inl hc
        · exact .inr ⟨.inr hr, hw⟩
      · rintro (hc | ⟨rfl | hr, hw⟩)
        · exact .inl hc
        · -- the first scope is left but was not added, so it was closed before
          exact .inl (by simpa [hw] using h)
        · exact .inr ⟨hr, hw⟩

/-- What a tracker knows of the paths registered so far. -/
structure Tracks (history : List (List Char)) (t : Tracker) : Prop where
  current : t.current = history.getLastD []
  closed : ∀ scope, scope ≠ [] → (scope ∈ t.closed ↔ Left history scope)

theorem tracks_nil : Tracks [] {} where
  current := rfl
  closed scope _ := by simp [Left]

/-- A scope that was entered was left, or the last path lies within it. -/
theorem left_or_within_last {history : List (List Char)} {scope : List Char}
    (h : ∃ a ∈ history, within a scope = true) : Left history scope ∨ within (history.getLastD []) scope = true := by
  obtain ⟨a, hmem, ha⟩ := h
  rcases List.eq_nil_or_concat history with rfl | ⟨before, last, rfl⟩
  · cases hmem
  · rw [List.concat_eq_append] at hmem ⊢
    simp only [List.getLastD_concat]
    by_cases hl : within last scope = true
    · exact .inr hl
    · rcases List.mem_append.1 hmem with hb | hb
      · exact .inl (left_concat_iff.2 (.inr ⟨⟨a, hb, ha⟩, by simpa using hl⟩))
      · rw [List.mem_singleton.1 hb] at ha
        exact absurd ha hl

theorem Tracks.moveTo {history : List (List Char)} {t : Tracker} (h : Tracks history t) (path : List Char) :
    Tracks (history ++ [path]) (t.moveTo path) where
  current := by simp [Tracker.moveTo]
  closed scope hs := by
    -- a scope is closed now if it was left before, or if the last path lies within it and this one does not
    simp only [Tracker.moveTo]
    rw [mem_close, mem_scopes_iff hs, h.closed scope hs, h.current, left_concat_iff]
    constructor
    · rintro (hl | ⟨hw, hp⟩)
      · exact .inl hl
      · refine .inr ⟨?_, hp⟩
        rcases List.eq_nil_or_concat history with rfl | ⟨before, last, rfl⟩
        · -- nothing lies within the root
          simp [within_iff, hs, Ne.symm hs] at hw
        · exact ⟨last, by simp, by simpa using hw⟩
    · rintro (hl | ⟨he, hp⟩)
      · exact .inl hl
      · rcases left_or_within_last he with hl | hw
        · exact .inl hl
        · exact .inr ⟨hw, hp⟩

theorem Tracks.reenters_eq_false_iff {history : List (List Char)} {t : Tracker} (h : Tracks history t)
    (path : List Char) : t.reenters path = false ↔ ∀ scope, Left history scope → within path scope = false := by
  simp only [reenters, List.any_eq_false, Bool.not_eq_true]
  constructor
  · intro hn scope hl
    by_cases hs : scope = []
    · simp [within, hs]
    · exact hn scope ((h.closed scope hs).2 hl)
  · intro hn scope hc
    by_cases hs : scope = []
    · simp [within, hs]
    · exact hn scope ((h.closed scope hs).1 hc)

/-- A path is accepted if with it every scope is still visited in one stretch, and refused otherwise. -/
theorem Tracks.register {history : List (List Char)} {t : Tracker} (h : Tracks history t)
    (hc : Contiguous (within · · = true) history) (path : String) :
    (t.register path = (.ok (), t.moveTo path.toList) ∧
      Contiguous (within · · = true) (history ++ [path.toList])) ∨
    (t.register path = (.error (.scopeReentered path), t) ∧
      ¬ Contiguous (within · · = true) (history ++ [path.toList])) := by
  rw [contiguous_concat_iff, ← h.reenters_eq_false_iff]
  simp only [Tracker.register, hc, true_and]
  cases t.reenters path.toList with
  | false => exact .inl ⟨rfl, rfl⟩
  | true => exact .inr ⟨rfl, by simp⟩

end Tracker

end LineRules
