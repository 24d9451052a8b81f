/-
The functions on the texts of paths as functions on lists of segments. A path lies within a scope
exactly if the scope's segments are the first of its own, and its scopes are listed by the lists that
its segments begin with, from one segment up to all of them. Whatever dots a text holds, the scopes
listed for it are those in which it lies.
-/
import LineRules.Proofs.Path
import Mathlib.Data.List.Infix

namespace LineRules.Path

theorem within_join_join {p q : List String} (hp : Segmented p) (hq : Segmented q) :
    within (join p).toList (join q).toList = true ↔ q ≠ [] ∧ q <+: p := by
  rw [within_join hp]
  constructor
  · rintro ⟨r, hr, hrp, he⟩
    obtain rfl := join_injective hq (hp.mono hrp) (String.toList_inj.1 he)
    exact ⟨hr, hrp⟩
  · rintro ⟨hq0, hqp⟩
    exact ⟨q, hq0, hqp, rfl⟩

/-! ## The scopes in their order -/

/-- A piece without dots is passed over. -/
theorem scopesFrom_append {piece : List Char} (h : '.' ∉ piece) (before rest : List Char) :
    scopesFrom before (piece ++ rest) = scopesFrom (before ++ piece) rest := by
  induction piece generalizing before with
  | nil => rw [List.nil_append, List.append_nil]
  | cons c piece ih =>
    rw [List.mem_cons, not_or] at h
    rw [List.cons_append, scopesFrom, if_neg (Ne.symm h.1), ih h.2, List.append_assoc, List.singleton_append]

theorem toList_join_cons_cons (s t : String) (rest : List String) :
    (join (s :: t :: rest)).toList = s.toList ++ '.' :: (join (t :: rest)).toList := by
  simp [join]

theorem scopesFrom_join (before : List Char) (s : String) {p : List String} (h : Segmented (s :: p)) :
    scopesFrom before (join (s :: p)).toList = p.inits.map fun q => before ++ (join (s :: q)).toList := by
  -- every dot ends a scope, so the text is taken apart at the first one
  induction p generalizing before s with
  | nil =>
    obtain ⟨hs, dotless⟩ := h s List.mem_cons_self
    have ends := scopesFrom_append dotless before []
    rw [List.append_nil] at ends
    simp [join, ends, scopesFrom, hs]
  | cons t p ih =>
    obtain ⟨-, dotless⟩ := h s List.mem_cons_self
    have rest : Segmented (t :: p) := fun r hr => h r (List.mem_cons_of_mem s hr)
    rw [toList_join_cons_cons, scopesFrom_append dotless, scopesFrom, if_pos rfl, ih _ t rest, List.inits_cons,
      List.map_cons, List.map_map]
    congr 1
    refine List.map_congr_left fun q _ => ?_
    rw [Function.comp_apply, toList_join_cons_cons]
    simp

/-- The scopes of a path are those of its first segments, the outermost first. -/
theorem scopes_join {p : List String} (hp : Segmented p) :
    scopes (join p).toList = p.inits.tail.map fun q => (join q).toList := by
  cases p with
  | nil => rfl
  | cons s p =>
    rw [scopes, scopesFrom_join [] s hp, List.inits_cons, List.tail_cons, List.map_map]
    rfl

/-- Every scope is longer than those listed before it. -/
theorem scopesFrom_longer (before path : List Char) :
    (scopesFrom before path).Pairwise (·.length < ·.length) ∧
      ∀ scope ∈ scopesFrom before path, before.length ≤ scope.length := by
  induction path generalizing before with
  | nil =>
    rw [scopesFrom]
    split <;> simp
  | cons c rest ih =>
    obtain ⟨longer, least⟩ := ih (before ++ [c])
    have past : ∀ scope ∈ scopesFrom (before ++ [c]) rest, before.length < scope.length :=
      fun scope hs => by simpa [Nat.succ_le_iff] using least scope hs
    rw [scopesFrom]
    split
    · exact ⟨List.pairwise_cons.2 ⟨past, longer⟩,
        List.forall_mem_cons.2 ⟨le_rfl, fun scope hs => (past scope hs).le⟩⟩
    · exact ⟨longer, fun scope hs => (past scope hs).le⟩

theorem nodup_scopes (path : List Char) : (scopes path).Nodup :=
  (scopesFrom_longer [] path).1.imp fun h he => absurd (congrArg List.length he) h.ne

/-! ## Texts and segments -/

/-- Texts of paths behave as lists of segments. For segments that are not empty and hold no dot, lying
within a scope is beginning with its segments, and the scopes of a path are what its segments begin
with, the shortest first and each once. And for any text, however its dots stand, the scopes other than
the root in which it lies are those that are listed. -/
theorem texts_behave_as_segments :
    (∀ p q : List String, Segmented p → Segmented q →
      (within (join p).toList (join q).toList = true ↔ q ≠ [] ∧ q <+: p)) ∧
    (∀ p : List String, Segmented p →
      scopes (join p).toList = (p.inits.tail.map fun q => (join q).toList) ∧
        (scopes (join p).toList).Nodup) ∧
    ∀ path scope : List Char, scope ≠ [] → (within path scope = true ↔ scope ∈ scopes path) :=
  ⟨fun _ _ hp hq => within_join_join hp hq, fun _ hp => ⟨scopes_join hp, nodup_scopes _⟩,
    fun _ _ hs => (mem_scopes_iff hs).symm⟩

/-- A segment with an accent, a text that only begins like a scope, and a text with dots in front. -/
theorem texts_behave_as_segments_accented :
    Segmented ["foo", "bär"] ∧ Segmented ["foo"] ∧ Segmented ["fo"] ∧
    within "foo.bär".toList "foo".toList = true ∧ within "foo.bär".toList "fo".toList ≠ true ∧
    scopes "foo.bär".toList = ["foo".toList, "foo.bär".toList] ∧
    (within "..a".toList ".".toList = true ↔ ".".toList ∈ scopes "..a".toList) := by
  have long : Segmented ["foo", "bär"] := by simp [Segmented]
  have outer : Segmented ["foo"] := by simp [Segmented]
  have cut : Segmented ["fo"] := by simp [Segmented]
  obtain ⟨inside, listed, any⟩ := texts_behave_as_segments
  refine ⟨long, outer, cut, ?_, ?_, ?_, any _ _ (by decide)⟩
  · exact (inside ["foo", "bär"] ["foo"] long outer).2 ⟨by decide, by decide⟩
  · exact fun h => absurd ((inside ["foo", "bär"] ["fo"] long cut).1 h).2 (by decide)
  · exact (listed ["foo", "bär"] long).1

end LineRules.Path
