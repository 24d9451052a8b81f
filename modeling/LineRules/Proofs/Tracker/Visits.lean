/-
Visits: paths registered one after another with a new tracker, those refused being dropped. The
tracker holds the last path and a list of scopes; what it does is told here by the paths it has
accepted, their positions, and nothing else. A path is refused exactly if two accepted paths before it
show that a scope in which it lies was entered and left. So all paths of a list are accepted exactly if
the positions of those within any one scope are an interval. Paths are any texts, whatever dots they
hold.
-/
import LineRules.Proofs.Tracker
import Mathlib.Order.Fin.Basic
import Mathlib.Order.Interval.Set.OrdConnected

namespace LineRules

namespace Path

/-! ## Scopes as texts -/

/-- The path is the scope or goes on after it with a dot. No path lies in the root. -/
def LiesIn (path scope : String) : Prop :=
  scope ≠ "" ∧ (path = scope ∨ ∃ rest, path = scope ++ "." ++ rest)

theorem within_toList_iff {path scope : String} :
    within path.toList scope.toList = true ↔ LiesIn path scope := by
  rw [within_iff, LiesIn, ne_eq, String.toList_eq_nil_iff, String.toList_inj]
  refine and_congr_right fun _ => or_congr_right ⟨?_, ?_⟩
  · rintro ⟨rest, h⟩
    refine ⟨String.ofList rest, String.toList_inj.1 ?_⟩
    simpa using h
  · rintro ⟨rest, rfl⟩
    exact ⟨rest.toList, by simp⟩

/-! ## Positions -/

/-- Every scope is visited in one stretch if the positions of the paths within it are an interval. -/
theorem contiguous_iff_ordConnected {α σ : Type} {within : α → σ → Prop} {paths : List α} :
    Contiguous within paths ↔ ∀ scope, {i : Fin paths.length | within paths[i] scope}.OrdConnected := by
  simp only [Set.ordConnected_iff]
  constructor
  · intro h scope i hi k hk _ j ⟨hij, hjk⟩
    -- at the ends of the interval there is nothing to show
    rcases eq_or_lt_of_le hij with rfl | hij
    · exact hi
    rcases eq_or_lt_of_le hjk with rfl | hjk
    · exact hk
    have habc : ([i, j, k].map fun l => paths[l]).Sublist paths :=
      List.map_getElem_sublist (by simp [hij, hjk, hij.trans hjk])
    exact h scope _ _ _ habc hi hk
  · intro h scope a b c habc ha hc
    obtain ⟨is, he, hlt⟩ := List.sublist_eq_map_getElem habc
    match is, he, hlt with
    | [i, j, k], he, hlt =>
      obtain ⟨rfl, rfl, rfl⟩ : a = paths[i] ∧ b = paths[j] ∧ c = paths[k] := by simpa using he
      obtain ⟨⟨hij, hik⟩, hjk⟩ : (i < j ∧ i < k) ∧ j < k := by simpa using hlt
      exact h scope i ha k hc hik.le ⟨hij.le, hjk.le⟩

theorem left_iff_not_pairwise {history : List (List Char)} {scope : List Char} :
    Left history scope ↔ ¬ history.Pairwise fun a b => within a scope = true → within b scope = true := by
  rw [List.pairwise_iff_forall_sublist]
  push Not
  simp only [Left, Bool.not_eq_true]

theorem left_map_toList_iff {history : List String} {scope : String} :
    Left (history.map String.toList) scope.toList ↔
      ∃ i j : Fin history.length, i < j ∧ LiesIn history[i] scope ∧ ¬ LiesIn history[j] scope := by
  rw [left_iff_not_pairwise, List.pairwise_map, List.pairwise_iff_getElem]
  simp only [within_toList_iff]
  push Not
  constructor
  · rintro ⟨i, j, hi, hj, hij, hin, hout⟩
    exact ⟨⟨i, hi⟩, ⟨j, hj⟩, hij, hin, hout⟩
  · rintro ⟨i, j, hij, hin, hout⟩
    exact ⟨i, j, i.isLt, j.isLt, hij, hin, hout⟩

theorem contiguous_map_toList_iff {paths : List String} :
    Contiguous (within · · = true) (paths.map String.toList) ↔ Contiguous LiesIn paths := by
  rw [contiguous_map_iff]
  constructor
  · intro h scope
    simpa only [within_toList_iff] using h scope.toList
  · intro h scope
    obtain ⟨scope, rfl⟩ : ∃ s : String, scope = s.toList := ⟨String.ofList scope, by simp⟩
    simpa only [within_toList_iff] using h scope

end Path

namespace Tracker

open LineRules.Path

/-! ## Visits -/

/-- Registers paths in order; one that is refused is dropped. The paths that were accepted, and the
tracker after all of them. -/
def visit : List String → Tracker → List String × Tracker
  | [], t => ([], t)
  | path :: rest, t =>
    match t.register path with
    | (.ok (), t) => (path :: (visit rest t).1, (visit rest t).2)
    | (.error _, t) => visit rest t

theorem visit_sublist (paths : List String) (t : Tracker) : (visit paths t).1.Sublist paths := by
  induction paths generalizing t with
  | nil => exact List.Sublist.refl []
  | cons path rest ih =>
    unfold visit
    split
    · exact (ih _).cons_cons path
    · exact (ih _).cons path

/-- The tracker goes along with the paths that it accepts, and a refused path leaves it where it is. -/
theorem Tracks.visit (history : List String) {t : Tracker} (h : Tracks (history.map String.toList) t)
    (paths : List String) :
    Tracks ((history ++ (visit paths t).1).map String.toList) (visit paths t).2 := by
  induction paths generalizing history t with
  | nil => simpa [Tracker.visit] using h
  | cons path rest ih =>
    simp only [Tracker.visit, Tracker.register]
    cases t.reenters path.toList with
    | true => exact ih history h
    | false =>
      have moved : Tracks ((history ++ [path]).map String.toList) (t.moveTo path.toList) := by
        rw [List.map_append]
        exact h.moveTo path.toList
      have := ih (history ++ [path]) moved
      rwa [List.append_assoc, List.singleton_append] at this

/-- Paths are all accepted if they keep every scope in one stretch. -/
theorem Tracks.visit_eq_iff (history : List String) {t : Tracker} (h : Tracks (history.map String.toList) t)
    (hc : Contiguous (within · · = true) (history.map String.toList)) (paths : List String) :
    (Tracker.visit paths t).1 = paths ↔
      Contiguous (within · · = true) ((history ++ paths).map String.toList) := by
  induction paths generalizing history t with
  | nil => simp [Tracker.visit, hc]
  | cons path rest ih =>
    have concat : (history ++ [path]).map String.toList = history.map String.toList ++ [path.toList] := by
      simp
    rcases h.register hc path with ⟨hr, hc'⟩ | ⟨hr, hn⟩ <;> simp only [Tracker.visit, hr]
    · have moved := h.moveTo path.toList
      rw [← concat] at moved hc'
      rw [List.cons.injEq, ih (history ++ [path]) moved hc', List.append_assoc, List.singleton_append]
      simp only [true_and]
    · -- one path is missing for good, and the scope it would come back to stays in two stretches
      refine iff_of_false (fun he => ?_) fun hall => hn (hall.sublist ?_)
      · have hle := (visit_sublist rest t).length_le
        rw [he, List.length_cons] at hle
        omega
      · rw [← concat]
        exact ((List.Sublist.refl history).append (by simp : [path].Sublist (path :: rest))).map _

theorem Tracks.register_error_iff {history : List String} {t : Tracker}
    (h : Tracks (history.map String.toList) t) (path : String) :
    (∃ err, (t.register path).1 = .error err) ↔
      ∃ scope, (∃ i j : Fin history.length, i < j ∧ LiesIn history[i] scope ∧ ¬ LiesIn history[j] scope) ∧
        LiesIn path scope := by
  have refused : (∃ err, (t.register path).1 = .error err) ↔ ¬ t.reenters path.toList = false := by
    simp only [Tracker.register]
    cases t.reenters path.toList <;> simp
  rw [refused, h.reenters_eq_false_iff]
  push Not
  constructor
  · rintro ⟨scope, hl, hw⟩
    obtain ⟨scope, rfl⟩ : ∃ s : String, scope = s.toList := ⟨String.ofList scope, by simp⟩
    exact ⟨scope, left_map_toList_iff.1 hl, within_toList_iff.1 (by simpa using hw)⟩
  · rintro ⟨scope, hl, hw⟩
    exact ⟨scope.toList, left_map_toList_iff.2 hl, by simpa using within_toList_iff.2 hw⟩

theorem register_error {t t' : Tracker} {path : String} {err : EmitError}
    (h : t.register path = (.error err, t')) : err = .scopeReentered path ∧ t' = t := by
  unfold Tracker.register at h
  split at h <;> cases h
  exact ⟨rfl, rfl⟩

/-- After any paths, a new tracker refuses a path exactly if of the paths it has accepted one lies in a
scope and a later one does not, and the path lies in that scope. The error names the path, and the
tracker stays as it is. Hence all paths are accepted exactly if, for every scope, those within it stand
next to each other. -/
theorem visit_accepts_stretches (paths : List String) :
    (∀ path,
      ((∃ err, ((visit paths {}).2.register path).1 = .error err) ↔
        ∃ scope, (∃ i j : Fin (visit paths {}).1.length, i < j ∧
            LiesIn (visit paths {}).1[i] scope ∧ ¬ LiesIn (visit paths {}).1[j] scope) ∧
          LiesIn path scope) ∧
      ∀ err t, (visit paths {}).2.register path = (.error err, t) →
        err = .scopeReentered path ∧ t = (visit paths {}).2) ∧
    ((visit paths {}).1 = paths ↔
      ∀ scope, {i : Fin paths.length | LiesIn paths[i] scope}.OrdConnected) := by
  refine ⟨fun path => ⟨?_, fun err t h => register_error h⟩, ?_⟩
  · have h := Tracks.visit [] tracks_nil paths
    rw [List.nil_append] at h
    exact h.register_error_iff path
  · rw [Tracks.visit_eq_iff [] tracks_nil contiguous_nil, List.nil_append,
      contiguous_map_toList_iff, contiguous_iff_ordConnected]

/-- A scope is not left by going on below it, nor by a path that begins with the same letters. -/
example : (visit ["opt.x", "opt", "option", "opt.y", "", "option.z"] {}).1 = ["opt.x", "opt", "option", ""] := by
  decide +kernel

end Tracker

end LineRules
