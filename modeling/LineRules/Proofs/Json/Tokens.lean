/-
The tokens of written values. Each token of a text is taken off its front and leaves a rest that is no
longer, so the bound on their number does not show. What is written for a value begins its token anew
whatever follows, except that a number ends where no sign of a number comes next. Main statement: the compact
and the indented form of a value have the same tokens, those of the value.
-/
import LineRules.Json.Printer
import LineRules.Json.Token
import LineRules.Proofs.Text.Digits

namespace LineRules.Json

open Text

/-! ## One token after another -/

theorem length_readWord (value : Json) (word cs : List Char) : (readWord value word cs).2.length ≤ cs.length := by
  fun_induction readWord value word cs with
  | case1 rest => exact Nat.le_refl _
  | case2 => exact Nat.le_refl _
  | case3 w ws rest ih => exact Nat.le_succ_of_le ih
  | case4 w ws c rest h => exact Nat.zero_le _

theorem length_digits (cs : List Char) : (digits cs).2.length ≤ cs.length :=
  (List.dropWhile_sublist isDigit).length_le

theorem length_readExponent {cs rest : List Char} {power : Int} (h : readExponent cs = .ok (power, rest)) :
    rest.length ≤ cs.length := by
  unfold readExponent at h
  split at h
  rename_i minus unsigned hs
  have sign : unsigned.length ≤ cs.length := by
    split at hs <;> cases hs <;> simp
  have := length_digits unsigned
  split at h
  · cases h
  · rename_i ds left hd
    rw [hd] at this
    cases h
    exact Nat.le_trans this sign

theorem length_afterExponent (whole fraction cs : List Char) :
    (match readExponent cs with
      | .ok (power, rest) => (realNumber whole fraction power, rest)
      | .error b => (.broken b, [])).2.length ≤ cs.length := by
  split
  · rename_i he
    exact length_readExponent he
  · exact Nat.zero_le _

theorem length_readFraction (minus : Bool) (whole cs : List Char) :
    (readFraction minus whole cs).2.length ≤ cs.length := by
  unfold readFraction
  split
  · rename_i rest
    have := length_digits rest
    split
    · exact Nat.zero_le _
    · rename_i hd
      rw [hd] at this
      refine Nat.le_trans ?_ (Nat.le_succ_of_le this)
      split
      · exact Nat.le_succ_of_le (length_afterExponent whole _ _)
      · exact Nat.le_succ_of_le (length_afterExponent whole _ _)
      · exact Nat.le_refl _
  · exact Nat.le_succ_of_le (length_afterExponent whole [] _)
  · exact Nat.le_succ_of_le (length_afterExponent whole [] _)
  · exact Nat.le_refl _

/-- A number takes up its digits at least. -/
theorem length_readNumber (minus : Bool) (cs : List Char) :
    (readNumber minus cs).2.length ≤ (digits cs).2.length := by
  unfold readNumber
  split
  · exact Nat.zero_le _
  · exact Nat.zero_le _
  · rename_i whole rest _ _ hd
    rw [hd]
    exact length_readFraction minus whole rest

theorem length_readString (p : Partial) (cs : List Char) : (readString p cs).2.length ≤ cs.length := by
  fun_induction readString p cs <;> simp_all <;> omega

/-- A token takes up the character that it begins with. -/
theorem length_readToken (c : Char) (rest : List Char) : (readToken c rest).2.length ≤ rest.length := by
  have number : ∀ minus, (readNumber minus rest).2.length ≤ rest.length := fun minus =>
    Nat.le_trans (length_readNumber minus rest) (length_digits rest)
  have digit : isDigit c = true → (readNumber false (c :: rest)).2.length ≤ rest.length := by
    intro h
    refine Nat.le_trans (length_readNumber false (c :: rest)) ?_
    rw [digits, List.dropWhile_cons, if_pos h]
    exact length_digits rest
  have branch : ∀ {b : Prop} [Decidable b] {r r' : Token × List Char}, (b → r.2.length ≤ rest.length) →
      (¬ b → r'.2.length ≤ rest.length) → (if b then r else r').2.length ≤ rest.length := by
    intro b _ r r' hr hr'
    split
    · exact hr ‹_›
    · exact hr' ‹_›
  unfold readToken
  iterate 6 refine branch (fun _ => Nat.le_refl _) fun _ => ?_
  refine branch (fun _ => length_readString {} rest) fun _ => ?_
  refine branch (fun _ => number true) fun _ => ?_
  refine branch digit fun _ => ?_
  iterate 3 refine branch (fun _ => length_readWord _ _ rest) fun _ => ?_
  exact Nat.zero_le _

/-- A text has as many tokens as its length allows, whatever the bound beyond. -/
theorem tokensWithin_eq {n m : Nat} {cs : List Char} (hn : cs.length ≤ n) (hm : cs.length ≤ m) :
    tokensWithin n cs = tokensWithin m cs := by
  induction n generalizing m cs with
  | zero =>
    obtain rfl := List.length_eq_zero_iff.1 (Nat.le_zero.1 hn)
    cases m <;> rfl
  | succ n ih =>
    cases cs with
    | nil => cases m <;> rfl
    | cons c rest =>
      rw [List.length_cons] at hn hm
      obtain ⟨m, rfl⟩ : ∃ k, m = k + 1 := ⟨m - 1, by omega⟩
      have shorter := length_readToken c rest
      have blank : tokensWithin n rest = tokensWithin m rest := ih (by omega) (by omega)
      have token : tokensWithin n (readToken c rest).2 = tokensWithin m (readToken c rest).2 :=
        ih (by omega) (by omega)
      simp only [tokensWithin, blank, token]

theorem tokens_blank {c : Char} (h : isBlank c = true) (rest : List Char) : tokens (c :: rest) = tokens rest := by
  simp only [tokens, List.length_cons, tokensWithin, h, if_true]

theorem tokens_cons {c : Char} {rest rest' : List Char} {token : Token} (h : isBlank c = false)
    (read : readToken c rest = (token, rest')) : tokens (c :: rest) = token :: tokens rest' := by
  have shorter := length_readToken c rest
  rw [read] at shorter
  simp only [tokens, List.length_cons, tokensWithin, h, read, Bool.false_eq_true, if_false]
  rw [tokensWithin_eq shorter (Nat.le_refl _)]

/-! ## Marks -/

theorem tokens_openArray (rest : List Char) : tokens ('[' :: rest) = .openArray :: tokens rest := tokens_cons rfl rfl

theorem tokens_closeArray (rest : List Char) : tokens (']' :: rest) = .closeArray :: tokens rest := tokens_cons rfl rfl

theorem tokens_openObject (rest : List Char) : tokens ('\x7b' :: rest) = .openObject :: tokens rest :=
  tokens_cons rfl rfl

theorem tokens_closeObject (rest : List Char) : tokens ('\x7d' :: rest) = .closeObject :: tokens rest :=
  tokens_cons rfl rfl

theorem tokens_comma (rest : List Char) : tokens (',' :: rest) = .comma :: tokens rest := tokens_cons rfl rfl

theorem tokens_colon (rest : List Char) : tokens (':' :: rest) = .colon :: tokens rest := tokens_cons rfl rfl

/-! ## Strings -/

section

variable {p : Partial} {c : Char}

theorem readString_plain (hq : c ≠ '"') (hb : c ≠ '\\') (hc : ¬ c.toNat < 0x20) (rest : List Char) :
    readString p (c :: rest) = readString (p.push c) rest := by
  rw [readString.eq_def]
  simp only [if_neg hq, if_neg hb, if_neg hc]

theorem readString_escape {e : Char} (hu : e ≠ 'u') (he : escapedChar? e = some c) (rest : List Char) :
    readString p ('\\' :: e :: rest) = readString (p.push c) rest := by
  rw [readString.eq_def]
  simp only [Char.reduceEq, if_false, if_true, if_neg hu, he]

theorem readString_unit {a b c d : Char} {n : Nat} (h : hexValue? [a, b, c, d] = some n) (rest : List Char) :
    readString p ('\\' :: 'u' :: a :: b :: c :: d :: rest) = readString (p.pushUnit n) rest := by
  rw [readString.eq_def]
  simp only [Char.reduceEq, if_false, if_true, h]

end

/-- The code point of a control character is written with two digits. -/
theorem hexValue?_control {n : Nat} (h : n < 0x20) :
    hexValue? ['0', '0', Nat.digitChar (n / 16), Nat.digitChar (n % 16)] = some n := by
  revert n
  decide

theorem pushUnit_control {p : Partial} {n : Nat} (h : n < 0x20) : p.pushUnit n = p.push (Char.ofNat n) := by
  rw [Partial.pushUnit, if_neg, if_neg] <;> simp only [Bool.and_eq_true, decide_eq_true_eq] <;> omega

/-- A character that is written in a string is read back. -/
theorem readString_writtenChar (p : Partial) (c : Char) (rest : List Char) :
    readString p (writtenChar c ++ rest) = readString (p.push c) rest := by
  unfold writtenChar
  split_ifs with quote backslash backspace feed newline ret tab control
  · exact readString_escape (by decide) (by rw [quote]; rfl) rest
  · exact readString_escape (by decide) (by rw [backslash]; rfl) rest
  · exact readString_escape (by decide) (by rw [backspace]; rfl) rest
  · exact readString_escape (by decide) (by rw [feed]; rfl) rest
  · exact readString_escape (by decide) (by rw [newline]; rfl) rest
  · exact readString_escape (by decide) (by rw [ret]; rfl) rest
  · exact readString_escape (by decide) (by rw [tab]; rfl) rest
  · have read : readString p (['\\', 'u', '0', '0', Nat.digitChar (c.toNat / 16), Nat.digitChar (c.toNat % 16)] ++
        rest) = _ := readString_unit (hexValue?_control control) rest
    rw [read, pushUnit_control control, Char.ofNat_toNat]
  · exact readString_plain quote backslash control rest

/-- A string is read back, after its opening quote. -/
theorem readString_written (s : String) (rest : List Char) :
    readString {} (s.toList.flatMap writtenChar ++ '"' :: rest) = (.text (.name s), rest) := by
  have go : ∀ cs chars, readString { chars := chars } (cs.flatMap writtenChar ++ '"' :: rest) =
      (.text (.name (String.ofList (chars.reverse ++ cs))), rest) := by
    intro cs
    induction cs with
    | nil =>
      intro chars
      rw [List.flatMap_nil, List.nil_append, readString.eq_def, List.append_nil]
      rfl
    | cons c cs ih =>
      intro chars
      rw [List.flatMap_cons, List.append_assoc, readString_writtenChar]
      have next := ih (c :: chars)
      rw [List.reverse_cons, List.append_assoc, List.singleton_append] at next
      exact next
  rw [go s.toList [], List.reverse_nil, List.nil_append, String.ofList_toList]

/-! ## Numbers -/

/-- A sign that would make a number longer. -/
def extendsNumber (c : Char) : Bool := isDigit c || c == '.' || c == 'e' || c == 'E'

theorem readNumber_written (n : UInt64) {rest : List Char} (ends : Stops extendsNumber rest) :
    readNumber false (Nat.toDigits 10 n.toNat ++ rest) = (natural n, rest) := by
  have stops : Stops isDigit rest := by
    intro c hc
    have := ends c hc
    simp only [extendsNumber, Bool.or_eq_false_iff] at this
    exact this.1.1.1
  have split : digits (Nat.toDigits 10 n.toNat ++ rest) = (Nat.toDigits 10 n.toNat, rest) := by
    rw [digits, takeWhile_run (fun c hc => isDigit_of_mem_toDigits hc) stops,
      dropWhile_run (fun c hc => isDigit_of_mem_toDigits hc) stops]
  have value : wholeNumber false (Nat.toDigits 10 n.toNat) = natural n := by
    have small : n.toNat < UInt64.size := n.toNat_lt_size
    simp only [wholeNumber, valueOf_toDigits (by decide : 1 < 10) (by decide), small, Bool.false_eq_true, if_false,
      if_true, UInt64.ofNat_toNat]
    rfl
  have whole : readFraction false (Nat.toDigits 10 n.toNat) rest = (natural n, rest) := by
    unfold readFraction
    split
    · cases ends '.' rfl
    · cases ends 'e' rfl
    · cases ends 'E' rfl
    · rw [value]
  unfold readNumber
  rw [split]
  split
  · rename_i none
    exact absurd (Prod.mk.inj none).1 Nat.toDigits_ne_nil
  · rename_i zero
    -- only zero begins with a zero, and it has no other digit
    obtain ⟨zero, -⟩ := Prod.mk.inj zero
    rw [toDigits_head_ne_zero zero, Nat.toDigits_zero] at zero
    cases zero
  · rename_i he
    obtain ⟨rfl, rfl⟩ := Prod.mk.inj he
    exact whole

/-! ## Values -/

/-- Values as encoders build them: complete, with names and texts, and with whole numbers only. -/
inductive Plain : Json → Prop
  | null : Plain .null
  | bool (b : Bool) : Plain (.bool b)
  | natural (n : UInt64) : Plain (.natural n)
  | string (s : String) : Plain (.string s)
  | list {items : List Json} (plain : ∀ v ∈ items, Plain v) : Plain (.list items)
  | record {members : List (String × Json)} (plain : ∀ m ∈ members, Plain m.2) : Plain (.record members)

mutual

/-- The tokens of a value. -/
def tokensOf : Json → List Token
  | .array items _ => .openArray :: tokensOfItems items ++ [.closeArray]
  | .object members _ => .openObject :: tokensOfMembers members ++ [.closeObject]
  | .string s => [.text (.name s)]
  | v => [.scalar v]

/-- The tokens of the elements of an array. -/
def tokensOfItems : List Json → List Token
  | [] => []
  | [v] => tokensOf v
  | v :: rest => tokensOf v ++ .comma :: tokensOfItems rest

/-- The tokens of the members of an object. -/
def tokensOfMembers : List (Key × Json) → List Token
  | [] => []
  | [(key, v)] => .text key :: .colon :: tokensOf v
  | (key, v) :: rest => .text key :: .colon :: tokensOf v ++ .comma :: tokensOfMembers rest

end

/-! ## Lists of values -/

/-- A function that puts a separator between what it makes of two items. -/
theorem eq_intercalate {α β : Type} {f : List α → List β} {g : α → List β} {sep : β} (nil : f [] = [])
    (one : ∀ a, f [a] = g a) (more : ∀ a b rest, f (a :: b :: rest) = g a ++ sep :: f (b :: rest)) (items : List α) :
    f items = [sep].intercalate (items.map g) := by
  induction items with
  | nil => exact nil
  | cons a items ih =>
    cases items with
    | nil => rw [one, List.map_singleton, List.intercalate_singleton]
    | cons b rest =>
      rw [more, ih]
      simp only [List.map_cons, List.intercalate_cons_cons, List.append_assoc, List.singleton_append]

theorem tokensOfItems_eq (items : List Json) : tokensOfItems items = [.comma].intercalate (items.map tokensOf) :=
  eq_intercalate (by simp [tokensOfItems]) (by simp [tokensOfItems]) (by simp [tokensOfItems]) items

theorem tokensOfMembers_eq (members : List (Key × Json)) :
    tokensOfMembers members = [.comma].intercalate (members.map fun m => .text m.1 :: .colon :: tokensOf m.2) :=
  eq_intercalate (by simp [tokensOfMembers]) (by simp [tokensOfMembers]) (by simp [tokensOfMembers]) members

theorem compactItems_eq (items : List Json) : compactItems items = [','].intercalate (items.map compactChars) :=
  eq_intercalate (by simp [compactItems]) (by simp [compactItems]) (by simp [compactItems]) items

theorem compactMembers_eq (members : List (Key × Json)) :
    compactMembers members = [','].intercalate (members.map fun m => m.1.written ++ ':' :: compactChars m.2) :=
  eq_intercalate (by simp [compactMembers]) (by simp [compactMembers]) (by simp [compactMembers]) members

theorem prettyItems_eq (level : Nat) (items : List Json) :
    prettyItems level items = [','].intercalate (items.map fun v => newLine level ++ prettyChars level v) :=
  eq_intercalate (by simp [prettyItems]) (by simp [prettyItems]) (by simp [prettyItems]) items

theorem prettyMembers_eq (level : Nat) (members : List (Key × Json)) :
    prettyMembers level members = [','].intercalate (members.map fun m =>
      newLine level ++ (m.1.written ++ ':' :: ' ' :: prettyChars level m.2)) :=
  eq_intercalate (by simp [prettyMembers]) (by simp [prettyMembers]) (by simp [prettyMembers]) members

/-- What is written has the given tokens, whatever stands behind it, as long as it is no sign of a number. -/
def Spells (cs : List Char) (ts : List Token) : Prop :=
  ∀ rest, Stops extendsNumber rest → tokens (cs ++ rest) = ts ++ tokens rest

theorem stops_cons {c : Char} (h : extendsNumber c = false) (rest : List Char) : Stops extendsNumber (c :: rest) := by
  rintro d ⟨⟩
  exact h

theorem spells_nil : Spells [] [] := fun _ _ => rfl

theorem spells_intercalate {α : Type} {write : α → List Char} {spelled : α → List Token} {items : List α}
    (h : ∀ a ∈ items, Spells (write a) (spelled a)) :
    Spells ([','].intercalate (items.map write)) ([.comma].intercalate (items.map spelled)) := by
  intro rest ends
  induction items with
  | nil => rfl
  | cons a items ih =>
    obtain ⟨first, others⟩ := List.forall_mem_cons.1 h
    cases items with
    | nil =>
      simp only [List.map_singleton, List.intercalate_singleton]
      exact first rest ends
    | cons b items =>
      have ih := ih others
      simp only [List.map_cons, List.intercalate_cons_cons, List.append_assoc, List.singleton_append] at ih ⊢
      rw [List.cons_append, first _ (stops_cons rfl _), tokens_comma, ih, List.cons_append]

/-! ## Writing -/

theorem spells_key (s : String) {cs : List Char} {ts : List Token} (h : Spells cs ts) :
    Spells ((Key.name s).written ++ ':' :: cs) (.text (.name s) :: .colon :: ts) := by
  intro rest ends
  have text : tokens ((Key.name s).written ++ ':' :: cs ++ rest) =
      .text (.name s) :: tokens (':' :: (cs ++ rest)) := by
    simp only [Key.written, writtenString, List.cons_append, List.append_assoc, List.nil_append]
    exact tokens_cons rfl (readString_written s _)
  rw [text, tokens_colon, h rest ends]
  rfl

theorem spells_string (s : String) : Spells (writtenString s) [.text (.name s)] := by
  intro rest ends
  simp only [writtenString, List.cons_append, List.append_assoc, List.nil_append]
  exact tokens_cons rfl (readString_written s rest)

theorem readToken_digit {c : Char} (h : isDigit c = true) (rest : List Char) :
    readToken c rest = (readNumber false (c :: rest)).map .scalar id := by
  have other : ∀ d, isDigit d = false → c ≠ d := by
    rintro d hd rfl
    rw [h] at hd
    cases hd
  unfold readToken
  rw [if_neg (other _ rfl), if_neg (other _ rfl), if_neg (other _ rfl), if_neg (other _ rfl), if_neg (other _ rfl),
    if_neg (other _ rfl), if_neg (other _ rfl), if_neg (other _ rfl), if_pos h]

theorem isBlank_digit {c : Char} (h : isDigit c = true) : isBlank c = false := by
  simp only [isDigit, isBlank, Bool.and_eq_true, decide_eq_true_eq, Bool.or_eq_false_iff, beq_eq_false_iff_ne] at h ⊢
  refine ⟨⟨⟨?_, ?_⟩, ?_⟩, ?_⟩ <;> rintro rfl <;> exact absurd h.1 (by decide)

theorem spells_natural (n : UInt64) : Spells (Nat.toDigits 10 n.toNat) [.scalar (.natural n)] := by
  intro rest ends
  have read := readNumber_written n ends
  cases hd : Nat.toDigits 10 n.toNat with
  | nil => exact absurd hd Nat.toDigits_ne_nil
  | cons d ds =>
    have digit : isDigit d = true := isDigit_of_mem_toDigits (n := n.toNat) (by simp [hd])
    rw [hd, List.cons_append] at read
    rw [List.cons_append]
    refine tokens_cons (isBlank_digit digit) ?_
    rw [readToken_digit digit, read]
    rfl

theorem spells_null : Spells "null".toList [.scalar .null] := by
  intro rest ends
  exact tokens_cons rfl rfl

theorem spells_bool (b : Bool) : Spells (writtenScalar (.bool b)) [.scalar (.bool b)] := by
  intro rest ends
  cases b <;> exact tokens_cons rfl rfl

/-- An array of what is written for its elements. -/
theorem spells_array {cs : List Char} {ts : List Token} (h : Spells cs ts) :
    Spells ('[' :: cs ++ [']']) (.openArray :: ts ++ [.closeArray]) := by
  intro rest ends
  simp only [List.cons_append, List.append_assoc, List.nil_append, tokens_openArray]
  rw [h _ (stops_cons rfl rest), tokens_closeArray]

/-- An object of what is written for its members. -/
theorem spells_object {cs : List Char} {ts : List Token} (h : Spells cs ts) :
    Spells ('\x7b' :: cs ++ ['\x7d']) (.openObject :: ts ++ [.closeObject]) := by
  intro rest ends
  simp only [List.cons_append, List.append_assoc, List.nil_append, tokens_openObject]
  rw [h _ (stops_cons rfl rest), tokens_closeObject]

/-- The compact form of a value has its tokens. -/
theorem spells_compact {v : Json} (h : Plain v) : Spells (compactChars v) (tokensOf v) := by
  induction h with
  | null => exact spells_null
  | bool b => exact spells_bool b
  | natural n => exact spells_natural n
  | string s => exact spells_string s
  | @list items plain ih =>
    rw [list, compactChars, tokensOf, compactItems_eq, tokensOfItems_eq]
    exact spells_array (spells_intercalate ih)
  | @record members plain ih =>
    rw [record, compactChars, tokensOf, compactMembers_eq, tokensOfMembers_eq, List.map_map, List.map_map]
    exact spells_object (spells_intercalate fun m hm => spells_key m.1 (ih m hm))

/-- Blanks do not count. -/
theorem tokens_newLine (level : Nat) (rest : List Char) : tokens (newLine level ++ rest) = tokens rest := by
  rw [newLine, List.cons_append, tokens_blank rfl]
  induction 2 * level with
  | zero => rfl
  | succ n ih => rw [List.replicate_succ, List.cons_append, tokens_blank rfl, ih]

theorem Spells.indented {cs : List Char} {ts : List Token} (h : Spells cs ts) (level : Nat) :
    Spells (newLine level ++ cs) ts := by
  intro rest ends
  rw [List.append_assoc, tokens_newLine, h rest ends]

theorem Spells.endLine {cs : List Char} {ts : List Token} (h : Spells cs ts) (level : Nat) :
    Spells (cs ++ newLine level) ts := by
  intro rest ends
  have blank : Stops extendsNumber (newLine level ++ rest) := stops_cons rfl _
  rw [List.append_assoc, h _ blank, tokens_newLine]

/-- The indented form of a value has the same tokens. -/
theorem spells_pretty {v : Json} (h : Plain v) (level : Nat) : Spells (prettyChars level v) (tokensOf v) := by
  induction h generalizing level with
  | null => exact spells_null
  | bool b => exact spells_bool b
  | natural n => exact spells_natural n
  | string s => exact spells_string s
  | @list items plain ih =>
    cases items with
    | nil => exact spells_array spells_nil
    | cons v items =>
      have inner := spells_intercalate fun v hv => (ih v hv (level + 1)).indented (level + 1)
      rw [list, prettyChars, tokensOf, prettyItems_eq, tokensOfItems_eq]
      · exact spells_array (inner.endLine level)
      · simp
  | @record members plain ih =>
    cases members with
    | nil => exact spells_object spells_nil
    | cons m members =>
      have blank : ∀ {cs ts}, Spells cs ts → Spells (' ' :: cs) ts := by
        intro cs ts h rest ends
        rw [List.cons_append, tokens_blank rfl, h rest ends]
      have inner := spells_intercalate fun m hm =>
        (spells_key m.1 (blank (ih m hm (level + 1)))).indented (level + 1)
      rw [record, prettyChars, tokensOf, prettyMembers_eq, tokensOfMembers_eq, List.map_map, List.map_map]
      · exact spells_object (inner.endLine level)
      · simp

end LineRules.Json
