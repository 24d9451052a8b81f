/-
Written values read back. The reader takes the tokens of a value, wherever it expects one, and adds the value
to the innermost array or object that is open; the stack below stays as it is. Main statement: reading the
compact or the indented form of a value gives the value, and nothing follows it.
-/
import LineRules.Json.Reader
import LineRules.Proofs.Json.Tokens

namespace LineRules.Json

/-! ## States of the reader -/

/-- A value may come next. -/
def Expected.IsValue (e : Expected) : Prop := e = .value ∨ e = .valueOrEnd

/-- The name of a member may come next. -/
def Expected.IsKey (e : Expected) : Prop := e = .key ∨ e = .keyOrEnd

section

variable {stack : List Frame} {e : Expected}

theorem feed_value (he : e.IsValue) {token : Token} (ht : token ≠ .closeArray) :
    Reader.feed (.running stack e) token = takeValue stack token := by
  rcases he with rfl | rfl
  · rfl
  · cases token with
    | closeArray => exact absurd rfl ht
    | _ => rfl

theorem feed_key (he : e.IsKey) (members : List (Key × Json)) (key : Key) :
    Reader.feed (.running (.object members :: stack) e) (.text key) =
      .running (.member members key :: stack) .colon := by
  rcases he with rfl | rfl <;> rfl

/-! ## Values -/

/-- The reader takes the tokens as the value, wherever it expects one. -/
def Takes (v : Json) (ts : List Token) : Prop :=
  ∀ stack e, Expected.IsValue e → ts.foldl Reader.feed (.running stack e) = accept v stack

/-- The elements of an array are added to it, the latest in front. -/
theorem feed_items {v : Json} {items : List Json} (h : ∀ w ∈ v :: items, Takes w (tokensOf w)) (he : e.IsValue)
    (before : List Json) :
    (tokensOfItems (v :: items)).foldl Reader.feed (.running (.array before :: stack) e) =
      .running (.array ((v :: items).reverse ++ before) :: stack) .commaOrEnd := by
  induction items generalizing v e before with
  | nil =>
    rw [tokensOfItems, h v List.mem_cons_self _ e he]
    rfl
  | cons w items ih =>
    obtain ⟨first, others⟩ := List.forall_mem_cons.1 h
    rw [tokensOfItems, List.foldl_append, first _ e he, List.foldl_cons]
    · have next := ih others (.inl rfl) (v :: before)
      rw [List.reverse_cons, List.append_assoc, List.singleton_append]
      exact next
    · simp

/-- The members of an object are added to it, the latest in front. -/
theorem feed_members {m : Key × Json} {members : List (Key × Json)}
    (h : ∀ n ∈ m :: members, Takes n.2 (tokensOf n.2)) (he : e.IsKey) (before : List (Key × Json)) :
    (tokensOfMembers (m :: members)).foldl Reader.feed (.running (.object before :: stack) e) =
      .running (.object ((m :: members).reverse ++ before) :: stack) .commaOrEnd := by
  induction members generalizing m e before with
  | nil =>
    rw [tokensOfMembers, List.foldl_cons, feed_key he, List.foldl_cons]
    exact h m List.mem_cons_self _ _ (.inl rfl)
  | cons n members ih =>
    obtain ⟨first, others⟩ := List.forall_mem_cons.1 h
    have value : (tokensOf m.2).foldl Reader.feed (.running (.member before m.1 :: stack) .value) =
        .running (.object (m :: before) :: stack) .commaOrEnd := first _ _ (.inl rfl)
    have next := ih others (.inl rfl) (m :: before)
    have colon : Reader.feed (.running (.member before m.1 :: stack) .colon) .colon =
        .running (.member before m.1 :: stack) .value := rfl
    rw [tokensOfMembers, List.cons_append, List.cons_append, List.foldl_cons, feed_key he, List.foldl_cons, colon,
      List.foldl_append, value, List.reverse_cons, List.append_assoc, List.singleton_append, ← next]
    · rfl
    · simp

end

/-- The reader takes the tokens of a value as the value. -/
theorem takes_tokensOf {v : Json} (h : Plain v) : Takes v (tokensOf v) := by
  intro stack e he
  induction h generalizing stack e with
  | null => exact feed_value he (by simp)
  | bool b => exact feed_value he (by simp)
  | natural n => exact feed_value he (by simp)
  | string s => exact feed_value he (by simp)
  | @list items plain ih =>
    rw [list, tokensOf, List.cons_append, List.foldl_cons, feed_value he (by simp), List.foldl_append]
    cases items with
    | nil => rfl
    | cons v items =>
      rw [takeValue, feed_items (fun w hw stack e => ih w hw stack e) (.inr rfl)]
      simp only [List.append_nil, List.foldl_cons, List.foldl_nil, Reader.feed, takeComma, closeFrame, Frame.close,
        List.reverse_reverse]
  | @record members plain ih =>
    rw [record, tokensOf, List.cons_append, List.foldl_cons, feed_value he (by simp), List.foldl_append]
    cases members with
    | nil => rfl
    | cons m members =>
      have all : ∀ n ∈ (m :: members).map fun m => (Key.name m.1, m.2), Takes n.2 (tokensOf n.2) := by
        intro n hn
        obtain ⟨m', hm', rfl⟩ := List.mem_map.1 hn
        exact fun stack e => ih m' hm' stack e
      rw [List.map_cons] at all
      rw [takeValue, List.map_cons, feed_members all (.inr rfl)]
      simp only [List.append_nil, List.foldl_cons, List.foldl_nil, Reader.feed, takeComma, closeFrame, Frame.close,
        List.reverse_reverse]

/-! ## Texts -/

theorem read_of_spells {v : Json} {cs : List Char} (plain : Plain v) (h : Spells cs (tokensOf v)) :
    read (String.ofList cs) = { root := v } := by
  have all := h [] (by simp [Text.Stops])
  rw [List.append_nil] at all
  rw [read, String.toList_ofList, all, List.foldl_append, takes_tokensOf plain [] .value (.inl rfl)]
  rfl

/-- A value is read back from its compact form. -/
theorem read_compact {v : Json} (h : Plain v) : read (compact v) = { root := v } :=
  read_of_spells h (spells_compact h)

/-- A value is read back from its indented form. -/
theorem read_pretty {v : Json} (h : Plain v) : read (pretty v) = { root := v } :=
  read_of_spells h (spells_pretty h 0)

theorem read_pretty_line {v : Json} (h : Plain v) : read (pretty v ++ "\n") = { root := v } := by
  have line : pretty v ++ "\n" = String.ofList (prettyChars 0 v ++ newLine 0) := by
    rw [String.ofList_append]
    rfl
  rw [line]
  exact read_of_spells h ((spells_pretty h 0).endLine 0)

end LineRules.Json
