/-
Where a name is cut into words. Nothing of a name is lost but its separators, and two neighbours among
the letters and numbers that are left are cut apart exactly at a separator or where a word begins. The
words can also be found in one pass from left to right, which keeps the word at hand and looks one
character back and one ahead. Main statement: both of these, and that the pass looks back only where
there is a word at hand, whose last character is the one it then sees.
-/
import LineRules.Proofs.Naming.Words

namespace LineRules.Naming

open Text

/-! ## Neighbours -/

/-- The number of the word in which character number `k` of the words stands. -/
def wordAt : List (List Char) → Nat → Nat
  | [], _ => 0
  | word :: others, k => if k < word.length then 0 else wordAt others (k - word.length) + 1

theorem wordAt_attach {ws : List (List Char)} (h : ws ≠ []) (c : Char) (k : Nat) :
    wordAt (attach [c] ws) (k + 1) = wordAt ws k := by
  cases ws with
  | nil => exact absurd rfl h
  | cons w ws => simp [attach, wordAt]

theorem wordAt_alone (c : Char) (ws : List (List Char)) (k : Nat) : wordAt ([c] :: ws) (k + 1) = wordAt ws k + 1 := by
  simp [wordAt]

theorem wordAt_words_zero (name : List Char) : wordAt (words name) 0 = 0 := by
  cases h : words name with
  | nil => rfl
  | cons w others =>
    have ne : w ≠ [] := fun empty => nil_notMem_words name (by rw [h, empty]; exact List.mem_cons_self)
    rw [wordAt, if_pos (List.length_pos_iff.2 ne)]

/-- A letter and the next one stand in different words exactly if the letter does not go on. -/
theorem wordAt_ne_iff {a : Char} (ha : isAlphanumeric a = true) (u rest : List Char) :
    wordAt (words (u ++ a :: rest)) (u.filter isAlphanumeric).length ≠
        wordAt (words (u ++ a :: rest)) ((u.filter isAlphanumeric).length + 1) ↔
      continues a rest = false := by
  induction u with
  | nil =>
    rw [List.nil_append, List.filter_nil, List.length_nil, wordAt_words_zero, words_letter ha]
    cases goes : continues a rest with
    | false => simp [wordAt_alone]
    | true => simp [wordAt_attach (words_ne_nil_of_continues goes), wordAt_words_zero]
  | cons c u ih =>
    cases letter : isAlphanumeric c with
    | false => rwa [List.cons_append, words_separator letter, List.filter_cons_of_neg (by simp [letter])]
    | true =>
      -- one letter in front moves every other one place on, and all of their words by as much
      rw [List.cons_append, words_letter letter, List.filter_cons_of_pos letter, List.length_cons, ← ih]
      cases goes : continues c (u ++ a :: rest) with
      | false => simp [wordAt_alone]
      | true => simp [wordAt_attach (words_ne_nil_of_continues goes)]

theorem continues_eq_false_iff {a b : Char} {gap v : List Char} (hb : isAlphanumeric b = true)
    (hgap : ∀ c ∈ gap, isAlphanumeric c = false) :
    continues a (gap ++ b :: v) = false ↔ gap ≠ [] ∨ startsWord a b v.head? = true := by
  cases gap with
  | nil => simp [continues, hb]
  | cons c gap => simp [continues, hgap c List.mem_cons_self]

theorem startsWord_iff {a b : Char} {next : Option Char} :
    startsWord a b next = true ↔
      isUppercase b = true ∧ (isLowercase a = true ∨ isDigit a = true ∨
        (isUppercase a = true ∧ next.any isLowercase = true)) := by
  simp only [startsWord, Bool.and_eq_true, Bool.or_eq_true, or_assoc]

/-! ## From left to right -/

/-- A look at the character in front of `place`, with the word at hand. -/
structure LookBack where
  place : Nat
  word : List Char

/-- It is possible to look back, and what is seen there is the end of the word at hand. -/
structure LookBack.Sound (name : List Char) (look : LookBack) : Prop where
  place : 0 < look.place
  word : look.word ≠ []
  sees : name[look.place - 1]? = look.word.getLast?

/-- A name being cut: the words that are finished, the word at hand, and where it was looked back. -/
structure Cutting where
  finished : List (List Char) := []
  word : List Char := []
  looks : List LookBack := []

namespace Cutting

/-- The word at hand is finished, if there is one. -/
def flush (s : Cutting) : Cutting :=
  if s.word = [] then s else { s with finished := s.finished ++ [s.word], word := [] }

/-- The word at hand goes on. -/
def push (c : Char) (s : Cutting) : Cutting := { s with word := s.word ++ [c] }

/-- It is looked back from a place. -/
def look (place : Nat) (s : Cutting) : Cutting := { s with looks := s.looks ++ [⟨place, s.word⟩] }

/-- The character `c` at `place` in a name. -/
def turn (name : List Char) (place : Nat) (c : Char) (s : Cutting) : Cutting :=
  if !isAlphanumeric c then s.flush
  else if isUppercase c && !s.word.isEmpty then
    if name[place - 1]?.any fun previous => startsWord previous c name[place + 1]? then
      (s.look place).flush.push c
    else (s.look place).push c
  else s.push c

/-- The rest of a name, from `place` on. -/
def run (name : List Char) (place : Nat) : List Char → Cutting → Cutting
  | [], s => s.flush
  | c :: rest, s => run name (place + 1) rest (s.turn name place c)

end Cutting

/-- A name cut in one pass. -/
def cutting (name : List Char) : Cutting := Cutting.run name 0 name {}

theorem attach_nil {ws : List (List Char)} (h : ws ≠ []) : attach [] ws = ws := by
  cases ws with
  | nil => exact absurd rfl h
  | cons w ws => rfl

namespace Cutting

variable {name before rest : List Char} {s : Cutting} {c : Char}

/-- A name has been cut up to `before`: it ends with the word at hand, and all looks back were sound. -/
structure At (name before rest : List Char) (s : Cutting) : Prop where
  split : name = before ++ rest
  word : s.word <:+ before
  looks : ∀ look ∈ s.looks, look.Sound name

theorem At.sound (h : At name before rest s) (hw : s.word ≠ []) : LookBack.Sound name ⟨before.length, s.word⟩ := by
  obtain ⟨front, hfront⟩ := h.word
  have ne : before ≠ [] := by rw [← hfront]; exact List.append_ne_nil_of_right_ne_nil front hw
  have pos : 0 < before.length := List.length_pos_iff.2 ne
  refine ⟨pos, hw, ?_⟩
  calc name[before.length - 1]?
    _ = before[before.length - 1]? := by rw [h.split, List.getElem?_append_left (by omega)]
    _ = before.getLast? := List.getLast?_eq_getElem?.symm
    _ = s.word.getLast? := by rw [← hfront, List.getLast?_append_of_ne_nil front hw]

theorem At.ahead (h : At name before (c :: rest) s) : name[before.length + 1]? = rest.head? := by
  rw [h.split, List.getElem?_append_right (by omega), Nat.add_sub_cancel_left, List.getElem?_cons_succ,
    List.head?_eq_getElem?]

theorem flush_word (s : Cutting) : s.flush.word = [] := by
  rw [flush]
  split
  · assumption
  · rfl

theorem flush_looks (s : Cutting) : s.flush.looks = s.looks := by
  rw [flush]
  split <;> rfl

theorem flush_finished (hw : s.word ≠ []) : s.flush.finished = s.finished ++ [s.word] := by
  rw [flush, if_neg hw]

theorem At.flush (h : At name before rest s) : At name before rest s.flush where
  split := h.split
  word := by rw [flush_word]; exact List.nil_suffix
  looks := by rw [flush_looks]; exact h.looks

theorem At.look (h : At name before rest s) (hw : s.word ≠ []) : At name before rest (s.look before.length) where
  split := h.split
  word := h.word
  looks := List.forall_mem_append.2 ⟨h.looks, List.forall_mem_singleton.2 (h.sound hw)⟩

theorem At.push (h : At name before (c :: rest) s) : At name (before ++ [c]) rest (s.push c) where
  split := by rw [h.split, List.append_assoc, List.singleton_append]
  word := (List.suffix_append_inj_of_length_eq rfl).2 ⟨h.word, rfl⟩
  looks := h.looks

theorem At.pass (h : At name before (c :: rest) s) (hw : s.word = []) : At name (before ++ [c]) rest s where
  split := by rw [h.split, List.append_assoc, List.singleton_append]
  word := by rw [hw]; exact List.nil_suffix
  looks := h.looks

/-- One character more is cut. -/
theorem At.turn (h : At name before (c :: rest) s) : At name (before ++ [c]) rest (s.turn name before.length c) := by
  rw [Cutting.turn]
  split
  · exact h.flush.pass (flush_word s)
  · split
    · rename_i upper
      have hw : s.word ≠ [] := by simpa using (Bool.and_eq_true_iff.1 upper).2
      split
      · exact (h.look hw).flush.push
      · exact (h.look hw).push
    · exact h.push

/-- What is there of the words when the rest of the name is cut as well: the word at hand goes on with
the rest or not. -/
def outcome (s : Cutting) (rest : List Char) : List (List Char) :=
  s.finished ++
    match s.word.getLast? with
    | none => words rest
    | some last => if continues last rest then attach s.word (words rest) else s.word :: words rest

theorem outcome_of_nil (h : s.word = []) : s.outcome rest = s.finished ++ words rest := by
  rw [outcome, h]
  rfl

theorem outcome_of_last {last : Char} (h : s.word.getLast? = some last) :
    s.outcome rest =
      s.finished ++ if continues last rest then attach s.word (words rest) else s.word :: words rest := by
  rw [outcome, h]

theorem outcome_push (letter : isAlphanumeric c = true) :
    (s.push c).outcome rest = s.finished ++ attach s.word (words (c :: rest)) := by
  have last : (s.push c).word.getLast? = some c := by simp [push]
  rw [outcome_of_last last, words_letter letter]
  split
  · cases words rest <;> simp [push, attach]
  · simp [push, attach]

/-- A character more changes nothing about the words to come. -/
theorem At.outcome_turn (h : At name before (c :: rest) s) :
    (s.turn name before.length c).outcome rest = s.outcome (c :: rest) := by
  by_cases hw : s.word = []
  · -- no word at hand: a separator is passed over, a letter begins a word
    rw [outcome_of_nil hw, Cutting.turn]
    cases letter : isAlphanumeric c with
    | false =>
      have : s.flush = s := if_pos hw
      simp [this, outcome_of_nil hw, words_separator letter]
    | true =>
      simp only [hw, List.isEmpty_nil, Bool.not_true, Bool.and_false, Bool.false_eq_true, if_false,
        outcome_push letter, attach_nil (words_ne_nil letter rest)]
  · obtain ⟨last, hlast⟩ : ∃ last, s.word.getLast? = some last := ⟨_, List.getLast?_eq_some_getLast hw⟩
    rw [outcome_of_last hlast, Cutting.turn]
    cases letter : isAlphanumeric c with
    | false =>
      have stops : continues last (c :: rest) = false := by rw [continues, letter, Bool.false_and]
      simp [stops, outcome_of_nil (flush_word s), flush_finished hw, words_separator letter]
    | true =>
      have sees : name[before.length - 1]? = some last := (h.sound hw).sees.trans hlast
      have goes : continues last (c :: rest) = !startsWord last c rest.head? := by
        rw [continues, letter, Bool.true_and]
      simp only [sees, h.ahead, Option.any_some, goes]
      cases starts : startsWord last c rest.head? with
      | true =>
        have upper := (startsWord_iff.1 starts).1
        have looked : (s.look before.length).flush.finished = s.finished ++ [s.word] := flush_finished hw
        simp [upper, hw, outcome_push letter, looked, flush_word, attach_nil (words_ne_nil letter rest)]
      | false =>
        -- looked back or not, the word goes on
        cases isUppercase c <;> simp [hw, Cutting.look, outcome_push letter]

theorem finished_run (h : At name before rest s) :
    (run name before.length rest s).finished = s.outcome rest ∧
      ∀ look ∈ (run name before.length rest s).looks, look.Sound name := by
  induction rest generalizing before s with
  | nil =>
    refine ⟨?_, by rw [run, flush_looks]; exact h.looks⟩
    by_cases hw : s.word = []
    · rw [run, flush, if_pos hw, outcome_of_nil hw, words, List.append_nil]
    · rw [run, flush_finished hw, outcome_of_last (List.getLast?_eq_some_getLast hw)]
      rfl
  | cons c rest ih =>
    have next := ih h.turn
    rwa [List.length_append, List.length_singleton, h.outcome_turn] at next

end Cutting

/-- One pass from left to right finds the words, and looks back soundly. -/
theorem finished_cutting (name : List Char) :
    (cutting name).finished = words name ∧ ∀ look ∈ (cutting name).looks, look.Sound name := by
  have start : Cutting.At name [] name {} := ⟨rfl, List.nil_suffix, by simp⟩
  exact Cutting.finished_run start

/-! ## Words and boundaries -/

/-- Cutting a name loses nothing, and cuts exactly where it should. The words are made of letters and
numbers and not empty, and together they are the name without its separators. Of the letters and
numbers left, one and the next, with nothing but the separators `gap` between them, stand in different
words exactly if there is a separator or the second begins a word: it is upper case, and the first is
lower case or a digit, or is upper case itself while a lower case character follows. And one pass from
left to right finds the same words, and looks back only where it has a word at hand, at its last
character. -/
theorem words_cut_exactly (name : List Char) :
    (∀ w ∈ words name, w ≠ [] ∧ ∀ c ∈ w, isAlphanumeric c = true) ∧
    (words name).flatten = name.filter isAlphanumeric ∧
    (∀ (u : List Char) (a : Char) (gap : List Char) (b : Char) (v : List Char),
      name = u ++ a :: (gap ++ b :: v) →
      isAlphanumeric a = true → isAlphanumeric b = true → (∀ c ∈ gap, isAlphanumeric c = false) →
      (wordAt (words name) (u.filter isAlphanumeric).length ≠
          wordAt (words name) ((u.filter isAlphanumeric).length + 1) ↔
        gap ≠ [] ∨ (isUppercase b = true ∧ (isLowercase a = true ∨ isDigit a = true ∨
          (isUppercase a = true ∧ v.head?.any isLowercase = true))))) ∧
    (cutting name).finished = words name ∧
    ∀ look ∈ (cutting name).looks,
      0 < look.place ∧ look.word ≠ [] ∧ name[look.place - 1]? = look.word.getLast? := by
  obtain ⟨found, sound⟩ := finished_cutting name
  refine ⟨fun w hw => ⟨?_, fun c hc => isAlphanumeric_of_mem_words hw hc⟩, flatten_words name, ?_, found, ?_⟩
  · exact fun empty => nil_notMem_words name (empty ▸ hw)
  · rintro u a gap b v rfl ha hb hgap
    rw [wordAt_ne_iff ha, continues_eq_false_iff hb hgap, startsWord_iff]
  · exact fun look hl => ⟨(sound look hl).place, (sound look hl).word, (sound look hl).sees⟩

/-- A run of capitals is cut in front of its last one, and not before; a separator cuts as well. -/
theorem words_cut_exactly_acronym :
    let name := "HTTPServer-v2".toList
    wordAt (words name) 3 ≠ wordAt (words name) 4 ∧ ¬ wordAt (words name) 2 ≠ wordAt (words name) 3 ∧
      wordAt (words name) 9 ≠ wordAt (words name) 10 := by
  intro name
  obtain ⟨-, -, boundary, -⟩ := words_cut_exactly name
  have nothing : ∀ c ∈ ([] : List Char), isAlphanumeric c = false := by simp
  have dash : ∀ c ∈ ['-'], isAlphanumeric c = false := List.forall_mem_singleton.2 (by decide)
  refine ⟨?_, fun apart => ?_, ?_⟩
  · exact (boundary "HTT".toList 'P' [] 'S' "erver-v2".toList rfl (by decide) (by decide) nothing).2
      (.inr (by decide))
  · exact absurd ((boundary "HT".toList 'T' [] 'P' "Server-v2".toList rfl (by decide) (by decide) nothing).1 apart)
      (by decide)
  · exact (boundary "HTTPServe".toList 'r' ['-'] 'v' "2".toList rfl (by decide) (by decide) dash).2
      (.inl (by decide))

end LineRules.Naming
