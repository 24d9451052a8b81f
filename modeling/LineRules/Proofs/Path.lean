/-
Qualified paths as texts and as lists of segments. A path lies within a scope if the scope's pieces
between dots are the first of its own, and the scopes listed for a path are those in which it lies.
Segments that are not empty and hold no dot can be read back from the path they are joined to, so
that such paths are equal, or lie one within the other, exactly as their lists of segments say.
-/
import LineRules.Path
import Mathlib.Data.List.Nodup

namespace LineRules.Path

/-! ## Scopes of a path -/

theorem within_iff {path scope : List Char} :
    within path scope = true ↔ scope ≠ [] ∧ (path = scope ∨ ∃ rest, path = scope ++ '.' :: rest) := by
  simp only [within, Bool.and_eq_true, Bool.not_eq_true', List.isEmpty_eq_false_iff, List.isPrefixOf_iff_prefix,
    and_assoc]
  refine and_congr_right fun _ => ⟨?_, ?_⟩
  · rintro ⟨⟨rest, rfl⟩, h⟩
    rw [List.drop_left] at h
    cases rest with
    | nil => exact .inl (List.append_nil scope)
    | cons c rest => exact .inr ⟨rest, by rw [beq_iff_eq.1 h]⟩
  · rintro (rfl | ⟨rest, rfl⟩)
    · exact ⟨List.prefix_refl path, by simp⟩
    · exact ⟨List.prefix_append scope _, by simp⟩

theorem mem_scopesFrom {before path scope : List Char} :
    scope ∈ scopesFrom before path ↔
      (scope = before ++ path ∧ scope ≠ []) ∨ ∃ u v, path = u ++ '.' :: v ∧ scope = before ++ u := by
  induction path generalizing before with
  | nil => cases before <;> simp +contextual [scopesFrom]
  | cons c rest ih =>
    -- the path is cut right in front of `c`, or later
    have cut : (∃ u v, c :: rest = u ++ '.' :: v ∧ scope = before ++ u) ↔
        (c = '.' ∧ scope = before) ∨ ∃ u v, rest = u ++ '.' :: v ∧ scope = before ++ [c] ++ u := by
      constructor
      · rintro ⟨u, v, hu, rfl⟩
        cases u with
        | nil =>
          obtain ⟨rfl, -⟩ := List.cons.inj hu
          exact .inl ⟨rfl, List.append_nil before⟩
        | cons d u =>
          obtain ⟨rfl, hrest⟩ := List.cons.inj hu
          exact .inr ⟨u, v, hrest, by simp⟩
      · rintro (⟨rfl, rfl⟩ | ⟨u, v, rfl, rfl⟩)
        · exact ⟨[], rest, rfl, (List.append_nil _).symm⟩
        · exact ⟨c :: u, v, rfl, by simp⟩
    rw [cut, scopesFrom]
    by_cases hc : c = '.'
    · rw [if_pos hc, List.mem_cons, ih, List.append_assoc, List.singleton_append]
      simp only [hc, true_and]
      exact or_left_comm
    · rw [if_neg hc, ih, List.append_assoc, List.singleton_append]
      simp only [hc, false_and, false_or]

/-- The scopes of a path are those in which it lies, the root apart. -/
theorem mem_scopes_iff {path scope : List Char} (h : scope ≠ []) :
    scope ∈ scopes path ↔ within path scope = true := by
  rw [scopes, mem_scopesFrom, within_iff]
  simp only [List.nil_append, h, ne_eq, not_false_eq_true, and_true, true_and]
  constructor
  · rintro (rfl | ⟨u, v, rfl, rfl⟩)
    · exact .inl rfl
    · exact .inr ⟨v, rfl⟩
  · rintro (rfl | ⟨rest, rfl⟩)
    · exact .inl rfl
    · exact .inr ⟨scope, rest, rfl, rfl⟩

/-! ## Pieces between dots -/

theorem intercalate_append_cons {sep : List Char} {as : List (List Char)} (h : as ≠ []) (b : List Char)
    (bs : List (List Char)) :
    sep.intercalate (as ++ b :: bs) = sep.intercalate as ++ sep ++ sep.intercalate (b :: bs) := by
  induction as with
  | nil => exact absurd rfl h
  | cons a as ih =>
    cases as with
    | nil => simp [List.intercalate_cons_cons]
    | cons a' as =>
      rw [List.cons_append, List.cons_append, List.intercalate_cons_cons, List.intercalate_cons_cons,
        ← List.cons_append, ih (List.cons_ne_nil a' as)]
      simp only [List.append_assoc]

/-- A path lies within a scope if its pieces begin with those of the scope. -/
theorem within_iff_splitOn {path scope : List Char} :
    within path scope = true ↔ scope ≠ [] ∧ scope.splitOn '.' <+: path.splitOn '.' := by
  rw [within_iff]
  refine and_congr_right fun _ => ⟨?_, ?_⟩
  · rintro (rfl | ⟨rest, rfl⟩)
    · exact List.prefix_refl _
    · rw [List.splitOn_append_cons_self]
      exact List.prefix_append _ _
  · rintro ⟨pieces, hp⟩
    rw [← @List.intercalate_splitOn Char path _ _ '.', ← hp]
    cases pieces with
    | nil => exact .inl (by rw [List.append_nil, List.intercalate_splitOn])
    | cons b bs =>
      refine .inr ⟨['.'].intercalate (b :: bs), ?_⟩
      rw [intercalate_append_cons (List.splitOn_ne_nil '.' scope), List.intercalate_splitOn, List.append_assoc]
      rfl

/-! ## Segments -/

/-- Every segment can stand between dots: it is not empty and holds no dot itself. -/
def Segmented (path : List String) : Prop := ∀ s ∈ path, s ≠ "" ∧ '.' ∉ s.toList

theorem Segmented.mono {p q : List String} (hp : Segmented p) (h : q <+: p) : Segmented q :=
  fun s hs => hp s (h.subset hs)

theorem toList_join (p : List String) : (join p).toList = ['.'].intercalate (p.map String.toList) := by
  induction p with
  | nil => rfl
  | cons s rest ih =>
    cases rest with
    | nil => simp [join]
    | cons t rest =>
      rw [join, List.map_cons, List.map_cons, List.intercalate_cons_cons, ← List.map_cons, ← ih]
      · simp
      · exact List.cons_ne_nil t rest

theorem splitOn_join {p : List String} (hp : Segmented p) (hne : p ≠ []) :
    (join p).toList.splitOn '.' = p.map String.toList := by
  rw [toList_join]
  refine List.splitOn_intercalate '.' (fun l hl => ?_) (by simpa using hne)
  obtain ⟨s, hs, rfl⟩ := List.mem_map.1 hl
  exact (hp s hs).2

theorem join_ne_nil {p : List String} (hp : Segmented p) (hne : p ≠ []) : (join p).toList ≠ [] := by
  intro h
  have hs := splitOn_join hp hne
  rw [h, List.splitOn_nil] at hs
  -- the root has one piece, which is empty, and no segment is
  obtain ⟨s, rfl, hempty⟩ := List.map_eq_singleton_iff.1 hs.symm
  exact (hp s (List.mem_singleton_self s)).1 (String.toList_inj.1 hempty)

/-- Segments can be read back from their path. -/
theorem join_injective {p q : List String} (hp : Segmented p) (hq : Segmented q) (h : join p = join q) :
    p = q := by
  by_cases hp0 : p = [] <;> by_cases hq0 : q = []
  · rw [hp0, hq0]
  · exact absurd (by rw [← h, hp0]; rfl) (join_ne_nil hq hq0)
  · exact absurd (by rw [h, hq0]; rfl) (join_ne_nil hp hp0)
  · refine (List.map_inj_right fun s t => String.toList_inj.1).1 ?_
    rw [← splitOn_join hp hp0, h, splitOn_join hq hq0]

/-- Paths are told apart by their texts. -/
theorem nodup_join_iff {paths : List (List String)} (h : ∀ p ∈ paths, Segmented p) :
    (paths.map join).Nodup ↔ paths.Nodup :=
  ⟨List.Nodup.of_map join, List.Nodup.map_on fun p hp q hq => join_injective (h p hp) (h q hq)⟩

/-- The scopes in which a path lies are those of its first segments. -/
theorem within_join {p : List String} (hp : Segmented p) (scope : List Char) :
    within (join p).toList scope = true ↔ ∃ q, q ≠ [] ∧ q <+: p ∧ scope = (join q).toList := by
  rw [within_iff_splitOn]
  constructor
  · rintro ⟨hs, pieces, hpieces⟩
    by_cases hp0 : p = []
    · -- within the root there are no scopes
      subst hp0
      have := within_iff.1 (within_iff_splitOn.2 ⟨hs, pieces, hpieces⟩)
      simp [join, hs, Ne.symm hs] at this
    · rw [splitOn_join hp hp0] at hpieces
      obtain ⟨q, rest, rfl, hq, -⟩ := List.map_eq_append_iff.1 hpieces.symm
      refine ⟨q, ?_, List.prefix_append q rest, ?_⟩
      · rintro rfl
        exact List.splitOn_ne_nil '.' scope hq.symm
      · rw [toList_join, hq, List.intercalate_splitOn]
  · rintro ⟨q, hq0, h, rfl⟩
    have hq := hp.mono h
    have hp0 : p ≠ [] := fun hp0 => hq0 (List.prefix_nil.1 (hp0 ▸ h))
    refine ⟨join_ne_nil hq hq0, ?_⟩
    rw [splitOn_join hq hq0, splitOn_join hp hp0]
    exact h.map String.toList

/-! ## Stretches -/

/-- Every scope is visited in one stretch: what stands between two paths within it lies within it. -/
def Contiguous {α σ : Type} (within : α → σ → Prop) (paths : List α) : Prop :=
  ∀ scope a b c, [a, b, c].Sublist paths → within a scope → within c scope → within b scope

theorem Contiguous.sublist {α σ : Type} {within : α → σ → Prop} {paths paths' : List α}
    (h : Contiguous within paths) (hs : paths'.Sublist paths) : Contiguous within paths' :=
  fun scope a b c habc => h scope a b c (habc.trans hs)

theorem contiguous_map_iff {α β σ : Type} {within : β → σ → Prop} {f : α → β} {paths : List α} :
    Contiguous within (paths.map f) ↔ Contiguous (fun a => within (f a)) paths := by
  constructor
  · intro h scope a b c habc
    exact h scope _ _ _ (habc.map f)
  · intro h scope a' b' c' habc
    obtain ⟨l, hl, he⟩ := List.sublist_map_iff.1 habc
    match l, he with
    | [a, b, c], he =>
      obtain ⟨rfl, rfl, rfl⟩ : a' = f a ∧ b' = f b ∧ c' = f c := by simpa using he
      exact h scope a b c hl

/-- A path given by its segments lies within a scope, which is not the root. -/
def Inside (path scope : List String) : Prop := scope ≠ [] ∧ scope <+: path

/-- Whether scopes are visited in one stretch can be told from the texts of the paths. -/
theorem contiguous_join_iff {paths : List (List String)} (h : ∀ p ∈ paths, Segmented p) :
    Contiguous (within · · = true) (paths.map fun p => (join p).toList) ↔ Contiguous Inside paths := by
  rw [contiguous_map_iff]
  constructor
  · rintro hc scope a b c habc ⟨hs, ha⟩ ⟨-, hc'⟩
    have segmented : ∀ p ∈ [a, b, c], Segmented p := fun p hp => h p (habc.subset hp)
    obtain ⟨q, hq, hb, he⟩ := (within_join (segmented b (by simp)) (join scope).toList).1 <|
      hc (join scope).toList a b c habc
        ((within_join (segmented a (by simp)) _).2 ⟨scope, hs, ha, rfl⟩)
        ((within_join (segmented c (by simp)) _).2 ⟨scope, hs, hc', rfl⟩)
    have hqs := join_injective ((segmented a (by simp)).mono ha) ((segmented b (by simp)).mono hb)
      (String.toList_inj.1 he)
    exact ⟨hs, hqs ▸ hb⟩
  · intro hc scope a b c habc ha hc'
    have segmented : ∀ p ∈ [a, b, c], Segmented p := fun p hp => h p (habc.subset hp)
    obtain ⟨s, hs, hsa, rfl⟩ := (within_join (segmented a (by simp)) scope).1 ha
    obtain ⟨s', -, hsc, he⟩ := (within_join (segmented c (by simp)) _).1 hc'
    have hss := join_injective ((segmented a (by simp)).mono hsa) ((segmented c (by simp)).mono hsc)
      (String.toList_inj.1 he)
    exact (within_join (segmented b (by simp)) _).2 ⟨s, hs, (hc s a b c habc ⟨hs, hsa⟩ ⟨hs, hss ▸ hsc⟩).2, rfl⟩

end LineRules.Path
