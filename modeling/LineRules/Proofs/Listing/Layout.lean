/-
The layout of listings. A listing is written with a counter, which goes up behind an opening line and down before a
closing one and knows nothing of kinds or of which opening a closing belongs to. Which operation closes which scope is
stated on the bracket language instead, and the scopes around an operation are counted as pairs of places. In bracketed
operations no two pairs cross, so the places of a pair stand in the same scopes, and the counter is the number of scopes.
Main statement: the listing of a composed rule has one line for each operation, indented by the scopes around it.
-/
import LineRules.Proofs.Listing
import LineRules.Proofs.Recorder.Replay
import Mathlib.Data.Set.Card

namespace LineRules

namespace Op

variable {xs ys body ops : List Op} {opening closing : Op} {kind : ScopeKind}

/-! ## Pairs -/

/-- The operation at place `i` opens a scope that the one at place `j` closes: what stands between them is
bracketed. -/
def Pairs (ops : List Op) (i j : Nat) : Prop :=
  ∃ kind before opening body closing after, ops = before ++ opening :: (body ++ closing :: after) ∧
    opening.role = .opens kind ∧ Balanced body ∧ closing.role = .closes kind ∧
    i = before.length ∧ j = before.length + body.length + 1

theorem Pairs.lt {i j : Nat} (h : Pairs ops i j) : i < j ∧ j < ops.length := by
  obtain ⟨kind, before, opening, body, closing, after, rfl, -, -, -, rfl, rfl⟩ := h
  simp only [List.length_append, List.length_cons]
  omega

/-- Scopes that were open before stay open below those that operations work on. -/
theorem scopesAfterAll_frame {inner above : List ScopeKind} (h : scopesAfterAll inner ops = some above)
    (outer : List ScopeKind) : scopesAfterAll (inner ++ outer) ops = some (above ++ outer) := by
  induction ops generalizing inner with
  | nil =>
    cases h
    rfl
  | cons op ops ih =>
    unfold scopesAfterAll at h ⊢
    obtain ⟨next, first, rest⟩ := Option.bind_eq_some_iff.1 h
    have framed : op.scopesAfter (inner ++ outer) = some (next ++ outer) := by
      unfold scopesAfter at first ⊢
      cases role : op.role with
      | mark => rw [role] at first; cases first; rfl
      | capture => rw [role] at first; cases first; rfl
      | opens kind => rw [role] at first; cases first; rfl
      | closes kind =>
        rw [role] at first
        cases inner with
        | nil => cases first
        | cons innermost inner =>
          simp only at first
          split at first
          · rename_i same
            cases first
            simp only [List.cons_append, if_pos same]
          · cases first
    rw [framed, Option.bind_some]
    exact ih rest

/-- Bracketed operations do not end with a scope open, be it followed by a part of what it holds. -/
theorem Balanced.not_open {before inside more : List Op} (h : Balanced (before ++ opening :: inside))
    (opens : opening.role = .opens kind) (balanced : Balanced (inside ++ more)) : False := by
  have all := h.scopesAfterAll []
  rw [scopesAfterAll_append] at all
  obtain ⟨outer, -, all⟩ := Option.bind_eq_some_iff.1 all
  have part := balanced.scopesAfterAll []
  rw [scopesAfterAll_append] at part
  obtain ⟨above, part, -⟩ := Option.bind_eq_some_iff.1 part
  have framed := scopesAfterAll_frame part (kind :: outer)
  rw [List.nil_append] at framed
  rw [Op.scopesAfterAll, scopesAfter_opens opens, Option.bind_some, framed] at all
  simp at all

/-- Bracketed operations do not close anything but what they open. -/
theorem Balanced.not_closed {more : List Op} (h : Balanced (body ++ closing :: more)) (balanced : Balanced body)
    (closes : closing.role = .closes kind) : False := by
  have all := h.scopesAfterAll []
  rw [scopesAfterAll_append, balanced.scopesAfterAll, Option.bind_some, Op.scopesAfterAll,
    scopesAfter_closes closes] at all
  simp at all

/-- No pair reaches out of bracketed operations. -/
theorem pairs_append_iff (h : Balanced xs) {i j : Nat} :
    Pairs (xs ++ ys) i j ↔
      Pairs xs i j ∨ ∃ i' j', Pairs ys i' j' ∧ i = xs.length + i' ∧ j = xs.length + j' := by
  constructor
  · rintro ⟨kind, before, opening, body, closing, after, split, opens, balanced, closes, rfl, rfl⟩
    rcases List.append_eq_append_iff.1 split with ⟨more, rfl, behind⟩ | ⟨more, rfl, behind⟩
    · exact .inr ⟨more.length, more.length + body.length + 1,
        ⟨kind, more, opening, body, closing, after, behind, opens, balanced, closes, rfl, rfl⟩,
        by simp, by simp only [List.length_append]; omega⟩
    · cases more with
      | nil =>
        refine .inr ⟨0, body.length + 1, ⟨kind, [], opening, body, closing, after, behind.symm, opens, balanced,
          closes, rfl, by simp⟩, by simp, ?_⟩
        simp only [List.append_nil]
        omega
      | cons first more =>
        rw [List.cons_append] at behind
        obtain ⟨rfl, tail⟩ := List.cons.inj behind
        -- the opening stands in the first part, so the closing does
        rcases List.append_eq_append_iff.1 tail with ⟨rest, rfl, ends⟩ | ⟨rest, rfl, -⟩
        · cases rest with
          | nil =>
            rw [List.append_nil] at h
            exact (h.not_open opens (by rw [List.append_nil]; exact balanced)).elim
          | cons last rest =>
            obtain ⟨rfl, -⟩ := List.cons.inj ends
            exact .inl ⟨kind, before, opening, body, closing, rest, rfl, opens, balanced, closes, rfl, rfl⟩
        · exact (h.not_open opens balanced).elim
  · rintro (⟨kind, before, opening, body, closing, after, rfl, opens, balanced, closes, rfl, rfl⟩ |
      ⟨_, _, ⟨kind, before, opening, body, closing, after, rfl, opens, balanced, closes, rfl, rfl⟩, rfl, rfl⟩)
    · exact ⟨kind, before, opening, body, closing, after ++ ys, by simp, opens, balanced, closes, rfl, rfl⟩
    · exact ⟨kind, xs ++ before, opening, body, closing, after, by simp, opens, balanced, closes, by simp,
        by simp only [List.length_append]; omega⟩

theorem pairs_scope_iff (opens : opening.role = .opens kind) (h : Balanced body) (closes : closing.role = .closes kind)
    {i j : Nat} :
    Pairs (opening :: (body ++ [closing])) i j ↔
      (i = 0 ∧ j = body.length + 1) ∨ ∃ i' j', Pairs body i' j' ∧ i = i' + 1 ∧ j = j' + 1 := by
  constructor
  · rintro ⟨kind', before, opening', inside, closing', after, split, opens', balanced, closes', rfl, rfl⟩
    rcases List.eq_nil_or_concat after with rfl | ⟨after, last, rfl⟩
    · cases before with
      | nil =>
        obtain ⟨-, same⟩ := List.cons.inj split
        obtain ⟨rfl, -⟩ := List.append_inj' same rfl
        exact .inl ⟨rfl, by simp⟩
      | cons first before =>
        have same : body ++ [closing] = (before ++ opening' :: inside) ++ [closing'] := by
          simpa using (List.cons.inj split).2
        obtain ⟨rfl, -⟩ := List.append_inj' same rfl
        exact (h.not_open opens' (by rw [List.append_nil]; exact balanced)).elim
    · cases before with
      | nil =>
        have same : body ++ [closing] = (inside ++ closing' :: after) ++ [last] := by
          simpa using (List.cons.inj split).2
        obtain ⟨rfl, -⟩ := List.append_inj' same rfl
        exact (h.not_closed balanced closes').elim
      | cons first before =>
        have same : body ++ [closing] = (before ++ opening' :: (inside ++ closing' :: after)) ++ [last] := by
          simpa using (List.cons.inj split).2
        obtain ⟨rfl, -⟩ := List.append_inj' same rfl
        exact .inr ⟨before.length, before.length + inside.length + 1,
          ⟨kind', before, opening', inside, closing', after, rfl, opens', balanced, closes', rfl, rfl⟩,
          by simp, by simp only [List.length_cons]; omega⟩
  · rintro (⟨rfl, rfl⟩ |
      ⟨_, _, ⟨kind', before, opening', inside, closing', after, rfl, opens', balanced, closes', rfl, rfl⟩, rfl, rfl⟩)
    · exact ⟨kind, [], opening, body, closing, [], rfl, opens, h, closes, rfl, by simp⟩
    · exact ⟨kind', opening :: before, opening', inside, closing', after ++ [closing], by simp, opens', balanced,
        closes', by simp, by simp only [List.length_cons]; omega⟩

/-! ## Scopes around an operation -/

/-- The scopes that the operation at place `k` stands in, each by the places of its opening and its closing. -/
def scopesAround (ops : List Op) (k : Nat) : Set (Nat × Nat) := {p | Pairs ops p.1 p.2 ∧ p.1 < k ∧ k < p.2}

/-- The number of scopes that the operation at place `k` stands in. -/
noncomputable def nesting (ops : List Op) (k : Nat) : Nat := (scopesAround ops k).ncard

/-- A pair of places, further back. -/
def shift (n : Nat) (p : Nat × Nat) : Nat × Nat := (n + p.1, n + p.2)

theorem shift_injective (n : Nat) : Function.Injective (shift n) := by
  rintro ⟨i, j⟩ ⟨i', j'⟩ h
  simp only [shift, Prod.mk.injEq] at h
  ext <;> simp only <;> omega

theorem scopesAround_finite (ops : List Op) (k : Nat) : (scopesAround ops k).Finite := by
  refine ((Set.finite_lt_nat k).prod (Set.finite_lt_nat ops.length)).subset ?_
  rintro ⟨i, j⟩ ⟨pair, before, -⟩
  exact ⟨before, pair.lt.2⟩

theorem nesting_append_left (h : Balanced xs) {k : Nat} (hk : k < xs.length) :
    nesting (xs ++ ys) k = nesting xs k := by
  have same : scopesAround (xs ++ ys) k = scopesAround xs k := by
    ext ⟨i, j⟩
    simp only [scopesAround, Set.mem_ofPred_eq, pairs_append_iff h]
    constructor
    · rintro ⟨pair | ⟨i', j', -, rfl, rfl⟩, before, behind⟩
      · exact ⟨pair, before, behind⟩
      · omega
    · rintro ⟨pair, before, behind⟩
      exact ⟨.inl pair, before, behind⟩
  unfold nesting
  rw [same]

theorem nesting_append_right (h : Balanced xs) (k : Nat) : nesting (xs ++ ys) (xs.length + k) = nesting ys k := by
  have same : scopesAround (xs ++ ys) (xs.length + k) = shift xs.length '' scopesAround ys k := by
    ext ⟨i, j⟩
    simp only [scopesAround, Set.mem_ofPred_eq, pairs_append_iff h, Set.mem_image, shift, Prod.exists, Prod.mk.injEq]
    constructor
    · rintro ⟨pair | ⟨i', j', pair, rfl, rfl⟩, before, behind⟩
      · have := pair.lt.2
        omega
      · exact ⟨i', j', ⟨pair, by omega, by omega⟩, rfl, rfl⟩
    · rintro ⟨i', j', ⟨pair, before, behind⟩, rfl, rfl⟩
      exact ⟨.inr ⟨i', j', pair, rfl, rfl⟩, by omega, by omega⟩
  unfold nesting
  rw [same, Set.ncard_image_of_injective _ (shift_injective _)]

section

variable (opens : opening.role = .opens kind) (h : Balanced body) (closes : closing.role = .closes kind)
include opens h closes

/-- An opening and its closing stand outside of their scope. -/
theorem nesting_scope_ends {k : Nat} (hk : k = 0 ∨ k = body.length + 1) :
    nesting (opening :: (body ++ [closing])) k = 0 := by
  have none : scopesAround (opening :: (body ++ [closing])) k = ∅ := by
    ext ⟨i, j⟩
    simp only [scopesAround, Set.mem_ofPred_eq, pairs_scope_iff opens h closes, Set.mem_empty_iff_false, iff_false]
    rintro ⟨⟨rfl, rfl⟩ | ⟨i', j', pair, rfl, rfl⟩, before, behind⟩
    · omega
    · have := pair.lt.2
      omega
  unfold nesting
  rw [none, Set.ncard_empty]

theorem nesting_scope_inside {k : Nat} (hk : k < body.length) :
    nesting (opening :: (body ++ [closing])) (k + 1) = nesting body k + 1 := by
  have one : scopesAround (opening :: (body ++ [closing])) (k + 1) =
      insert (0, body.length + 1) (shift 1 '' scopesAround body k) := by
    ext ⟨i, j⟩
    simp only [scopesAround, Set.mem_ofPred_eq, pairs_scope_iff opens h closes, Set.mem_insert_iff, Set.mem_image, shift,
      Prod.exists, Prod.mk.injEq]
    constructor
    · rintro ⟨⟨rfl, rfl⟩ | ⟨i', j', pair, rfl, rfl⟩, before, behind⟩
      · exact .inl ⟨rfl, rfl⟩
      · exact .inr ⟨i', j', ⟨pair, by omega, by omega⟩, by omega, by omega⟩
    · rintro (⟨rfl, rfl⟩ | ⟨i', j', ⟨pair, before, behind⟩, rfl, rfl⟩)
      · exact ⟨.inl ⟨rfl, rfl⟩, by omega, by omega⟩
      · exact ⟨.inr ⟨i', j', pair, by omega, by omega⟩, by omega, by omega⟩
  have outer : (0, body.length + 1) ∉ shift 1 '' scopesAround body k := by
    rintro ⟨⟨i, j⟩, -, same⟩
    simp only [shift, Prod.mk.injEq] at same
    omega
  unfold nesting
  rw [one, Set.ncard_insert_of_notMem outer ((scopesAround_finite body k).image _),
    Set.ncard_image_of_injective _ (shift_injective 1)]

end

/-- In bracketed operations the two ends of a scope stand in the same scopes, and what is between them in more. -/
theorem Balanced.nesting_pairs (h : Balanced ops) {i j : Nat} (pair : Pairs ops i j) :
    nesting ops i = nesting ops j ∧ ∀ k, i < k → k < j → nesting ops i < nesting ops k := by
  induction h generalizing i j with
  | nil =>
    have := pair.lt
    simp at this
  | plain role =>
    have := pair.lt
    simp only [List.length_singleton] at this
    omega
  | @append xs ys left right hl hr =>
    rcases (pairs_append_iff left).1 pair with here | ⟨i', j', there, rfl, rfl⟩
    · obtain ⟨ends, inner⟩ := hl here
      have := here.lt
      constructor
      · rw [nesting_append_left left (by omega), nesting_append_left left (by omega), ends]
      · intro k before behind
        rw [nesting_append_left left (by omega), nesting_append_left left (by omega)]
        exact inner k before behind
    · obtain ⟨ends, inner⟩ := hr there
      constructor
      · rw [nesting_append_right left, nesting_append_right left, ends]
      · intro k before behind
        obtain ⟨k', rfl⟩ : ∃ k', k = xs.length + k' := ⟨k - xs.length, by omega⟩
        rw [nesting_append_right left, nesting_append_right left]
        exact inner k' (by omega) (by omega)
  | @scope kind opening closing body opens inside closes ih =>
    rcases (pairs_scope_iff opens inside closes).1 pair with ⟨rfl, rfl⟩ | ⟨i', j', there, rfl, rfl⟩
    · rw [nesting_scope_ends opens inside closes (.inl rfl), nesting_scope_ends opens inside closes (.inr rfl)]
      refine ⟨rfl, fun k before behind => ?_⟩
      obtain ⟨k', rfl⟩ : ∃ k', k = k' + 1 := ⟨k - 1, by omega⟩
      rw [nesting_scope_inside opens inside closes (by omega)]
      omega
    · obtain ⟨ends, inner⟩ := ih there
      have := there.lt
      rw [nesting_scope_inside opens inside closes (by omega), nesting_scope_inside opens inside closes (by omega), ends]
      refine ⟨rfl, fun k before behind => ?_⟩
      obtain ⟨k', rfl⟩ : ∃ k', k = k' + 1 := ⟨k - 1, by omega⟩
      rw [nesting_scope_inside opens inside closes (by omega)]
      have := inner k' (by omega) (by omega)
      omega

end Op

/-! ## The counter -/

namespace Plan

open Op

/-- The counter before the operation at place `k`. -/
def counter (depth : Nat) (ops : List Op) (k : Nat) : Nat := (ops.take k).foldl depthAfter depth

-- the listing tells openings and closings apart by itself; it agrees with the roles
theorem shownDepth_eq (depth : Nat) (op : Op) :
    shownDepth depth op =
      match op.role with
      | .closes _ => depth - 1
      | _ => depth := by
  cases op <;> rfl

theorem depthAfter_eq (depth : Nat) (op : Op) :
    depthAfter depth op =
      match op.role with
      | .opens _ => depth + 1
      | .closes _ => depth - 1
      | _ => depth := by
  cases op <;> rfl

/-- In bracketed operations the counter ends where it began, and every operation is shown at the number of scopes
that it stands in. -/
theorem counter_of_balanced {ops : List Op} (h : Balanced ops) (depth : Nat) :
    ops.foldl depthAfter depth = depth ∧
      ∀ k op, ops[k]? = some op → shownDepth (counter depth ops k) op = depth + nesting ops k := by
  unfold counter
  induction h generalizing depth with
  | nil => exact ⟨rfl, by simp⟩
  | @plain op role =>
    have kept : shownDepth depth op = depth ∧ depthAfter depth op = depth := by
      rw [shownDepth_eq, depthAfter_eq]
      rcases role with role | role <;> rw [role] <;> exact ⟨rfl, rfl⟩
    refine ⟨kept.2, fun k op' there => ?_⟩
    obtain ⟨rfl, rfl⟩ : k = 0 ∧ op = op' := by
      cases k with
      | zero => simpa using there
      | succ k => simp at there
    have none : scopesAround [op] 0 = ∅ := by
      ext ⟨i, j⟩
      simp [scopesAround]
    rw [nesting, none, Set.ncard_empty]
    exact kept.1
  | @append xs ys left right hl hr =>
    obtain ⟨endLeft, shownLeft⟩ := hl depth
    obtain ⟨endRight, shownRight⟩ := hr depth
    refine ⟨by rw [List.foldl_append, endLeft, endRight], fun k op there => ?_⟩
    by_cases hk : k < xs.length
    · rw [List.getElem?_append_left hk] at there
      rw [List.take_append_of_le_length (by omega), nesting_append_left left hk]
      exact shownLeft k op there
    · obtain ⟨k', rfl⟩ : ∃ k', k = xs.length + k' := ⟨k - xs.length, by omega⟩
      rw [List.getElem?_append_right (by omega), Nat.add_sub_cancel_left] at there
      rw [List.take_length_add_append, List.foldl_append, endLeft, nesting_append_right left]
      exact shownRight k' op there
  | @scope kind opening closing body opens inside closes ih =>
    obtain ⟨endBody, shownBody⟩ := ih (depth + 1)
    have up : depthAfter depth opening = depth + 1 := by rw [depthAfter_eq, opens]
    have down : depthAfter (depth + 1) closing = depth := by rw [depthAfter_eq, closes]; rfl
    refine ⟨by rw [List.foldl_cons, up, List.foldl_append, endBody, List.foldl_cons, down, List.foldl_nil],
      fun k op there => ?_⟩
    cases k with
    | zero =>
      obtain rfl : opening = op := by simpa using there
      rw [nesting_scope_ends opens inside closes (.inl rfl), List.take_zero, List.foldl_nil]
      rw [shownDepth_eq, opens]
      rfl
    | succ k =>
      rw [List.take_succ_cons, List.foldl_cons, up]
      rw [List.getElem?_cons_succ] at there
      by_cases hk : k < body.length
      · rw [List.getElem?_append_left hk] at there
        rw [List.take_append_of_le_length (by omega), nesting_scope_inside opens inside closes hk, shownBody k op there]
        omega
      · have last := (List.getElem?_eq_some_iff.1 there).1
        simp only [List.length_append, List.length_singleton] at last
        obtain rfl : k = body.length := by omega
        obtain rfl : closing = op := by simpa using there
        rw [List.take_left, endBody, nesting_scope_ends opens inside closes (.inr rfl)]
        rw [shownDepth_eq, closes]
        rfl

/-! ## Lines -/

/-- The lines of a program are those of its operations, each shown where the counter is, and nothing behind them. -/
theorem splitOn_linesText {ops : List Op}
    (plain : ∀ op ∈ ops, ∀ name, op.name? = some name → '\n' ∉ name.toList) (depth : Nat) :
    (linesText depth ops).toList.splitOn '\n' =
      ops.mapIdx (fun k op => List.replicate (2 * shownDepth (counter depth ops k) op) ' ' ++ op.text.toList) ++
        [[]] := by
  induction ops generalizing depth with
  | nil => rfl
  | cons op ops ih =>
    obtain ⟨own, others⟩ := List.forall_mem_cons.1 plain
    rw [Listing.splitOn_linesText_cons own, ih others, List.mapIdx_cons, List.cons_append]
    rfl

end Plan

namespace Recorder

open Op

/-- The listing of a rule that is composed, if the name of the rule stands on one line, has a header and then one line
for each operation, in order: the text of the operation behind two blanks for the plan and two for each scope that it
stands in. The two ends of a scope are indented alike, and everything between them more; and the counter that the
listing is written with is never zero where it goes down. -/
theorem listing_layout {policy : NamingPolicy} {rule : Rule} {r : Recorder} {ops : List Op}
    (h : (compose emitter policy.normalize rule r).result = .ok ops) (line : '\n' ∉ rule.name.toList) :
    ∃ plan, (compose emitter policy.normalize rule r).state.plans = r.plans ++ [plan] ∧ plan.ops = ops ∧
      plan.listing.toList.splitOn '\n' =
        ("rule " ++ rule.name ++ " (" ++ rule.pos.text ++ ")").toList ::
          ops.mapIdx (fun k op => List.replicate (2 * (1 + nesting ops k)) ' ' ++ op.text.toList) ++ [[]] ∧
      (∀ i j, Pairs ops i j →
        nesting ops i = nesting ops j ∧ ∀ k, i < k → k < j → nesting ops i < nesting ops k) ∧
      ∀ k op kind, ops[k]? = some op → op.role = .closes kind → 0 < Plan.counter 1 ops k := by
  have balanced : Balanced ops := by
    obtain ⟨-, rfl, -, -⟩ := fit_of_compose_ok h
    cases opens_of_scopesAfterAll (scopesAfterAll_programAll [] rule.actions []) with
    | none outermost => exact outermost
  obtain ⟨-, shown⟩ := Plan.counter_of_balanced balanced 1
  refine ⟨_, by rw [compose_ok_state h], rfl, ?_, fun i j => balanced.nesting_pairs, ?_⟩
  · have header : '\n' ∉ ("rule " ++ rule.name ++ " (" ++ rule.pos.text ++ ")").toList := by
      simp [line, Pos.text, Listing.newline_notMem_decimal]
    have text : ∀ body : String, ("rule " ++ rule.name ++ " (" ++ rule.pos.text ++ ")\n" ++ body).toList =
        ("rule " ++ rule.name ++ " (" ++ rule.pos.text ++ ")").toList ++ '\n' :: body.toList := by
      intro body
      simp
    unfold Plan.listing
    rw [text, List.splitOn_append_cons_self_of_not_mem header,
      Plan.splitOn_linesText fun op hop name hn => (blank_notMem_of_compose_ok h op hop name hn).2]
    simp only [List.cons_append, List.cons.injEq, true_and, List.append_cancel_right_eq]
    refine List.ext_getElem? fun k => ?_
    rw [List.getElem?_mapIdx, List.getElem?_mapIdx]
    cases there : ops[k]? with
    | none => rfl
    | some op => rw [Option.map_some, Option.map_some, shown k op there]
  · intro k op kind there closes
    have := shown k op there
    rw [Plan.shownDepth_eq, closes] at this
    simp only at this
    omega

/-- Scopes of both kinds, one in another. -/
theorem listing_layout_nested :
    let rule : Rule := { name := "access", actions := [
      .unnamed {} [.step {} .atEnd],
      .named {} "user" [.unnamed {} [.step {} (.passFirst 2)]]] }
    ∃ ops, (compose emitter NamingPolicy.snake.normalize rule {}).result = .ok ops ∧ '\n' ∉ rule.name.toList ∧
      ∃ plan, (compose emitter NamingPolicy.snake.normalize rule {}).state.plans = [plan] ∧ plan.ops = ops ∧
        plan.listing.toList.splitOn '\n' =
          ("rule " ++ rule.name ++ " (" ++ rule.pos.text ++ ")").toList ::
            ops.mapIdx (fun k op => List.replicate (2 * (1 + nesting ops k)) ' ' ++ op.text.toList) ++ [[]] ∧
        (∀ i j, Pairs ops i j →
          nesting ops i = nesting ops j ∧ ∀ k, i < k → k < j → nesting ops i < nesting ops k) ∧
        ∀ k op kind, ops[k]? = some op → op.role = .closes kind → 0 < Plan.counter 1 ops k := by
  intro rule
  have h : (compose emitter NamingPolicy.snake.normalize rule {}).result = .ok rule.program := by decide +kernel
  exact ⟨_, h, by decide, listing_layout h (by decide)⟩

end Recorder

end LineRules
