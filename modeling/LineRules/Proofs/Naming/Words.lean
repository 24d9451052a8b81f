/-
The words of a name. Put together, the words are the name without its separators. A word cut again gives itself:
seen alone its letters have fewer neighbours, and a neighbour can only be a reason to begin a new word. Separators
cut whatever stands around them, and where two texts meet without one, the words of both stay as they are but for
the two that meet, which may run together.
-/
import LineRules.Proofs.Naming.Letters
import LineRules.Proofs.Text.SmallForms

namespace LineRules.Naming

open Text

/-! ## Letter by letter -/

/-- A text in front of words, run together with the first of them. -/
def attach (u : List Char) : List (List Char) → List (List Char)
  | [] => [u]
  | word :: others => (u ++ word) :: others

theorem flatten_attach (u : List Char) (ws : List (List Char)) : (attach u ws).flatten = u ++ ws.flatten := by
  cases ws <;> simp [attach]

theorem attach_append {ws : List (List Char)} (h : ws ≠ []) (u : List Char) (ws' : List (List Char)) :
    attach u (ws ++ ws') = attach u ws ++ ws' := by
  cases ws with
  | nil => exact absurd rfl h
  | cons w ws => rfl

theorem words_separator {c : Char} (h : isAlphanumeric c = false) (rest : List Char) :
    words (c :: rest) = words rest := by
  rw [words, if_pos (by simp [h])]

theorem words_letter {c : Char} (h : isAlphanumeric c = true) (rest : List Char) :
    words (c :: rest) = if continues c rest then attach [c] (words rest) else [c] :: words rest := by
  rw [words, if_neg (by simp [h])]
  split
  · cases words rest <;> rfl
  · rfl

theorem exists_of_continues {c : Char} {rest : List Char} (h : continues c rest = true) :
    ∃ d tail, rest = d :: tail ∧ isAlphanumeric d = true ∧ startsWord c d tail.head? = false := by
  cases rest with
  | nil => cases h
  | cons d tail =>
    rw [continues, Bool.and_eq_true, Bool.not_eq_true'] at h
    exact ⟨d, tail, rfl, h⟩

theorem words_ne_nil {c : Char} (h : isAlphanumeric c = true) (rest : List Char) : words (c :: rest) ≠ [] := by
  rw [words_letter h]
  split
  · cases words rest <;> simp [attach]
  · simp

theorem words_ne_nil_of_continues {c : Char} {rest : List Char} (h : continues c rest = true) : words rest ≠ [] := by
  obtain ⟨d, tail, rfl, letter, -⟩ := exists_of_continues h
  exact words_ne_nil letter tail

theorem flatten_words (name : List Char) : (words name).flatten = name.filter isAlphanumeric := by
  induction name with
  | nil => rfl
  | cons c rest ih =>
    cases letter : isAlphanumeric c with
    | false => rw [words_separator letter, ih, List.filter_cons_of_neg (by simp [letter])]
    | true =>
      rw [words_letter letter, List.filter_cons_of_pos letter]
      split
      · rw [flatten_attach, ih, List.singleton_append]
      · rw [List.flatten_cons, ih, List.singleton_append]

theorem nil_notMem_words (name : List Char) : [] ∉ words name := by
  induction name with
  | nil => simp [words]
  | cons c rest ih =>
    cases letter : isAlphanumeric c with
    | false => rwa [words_separator letter]
    | true =>
      rw [words_letter letter]
      split
      · cases h : words rest with
        | nil => simp [attach]
        | cons w others =>
          rw [h] at ih
          simp_all [attach]
      · simp [ih]

theorem mem_of_mem_words {cs w : List Char} {x : Char} (hw : w ∈ words cs) (hx : x ∈ w) : x ∈ cs := by
  have : x ∈ (words cs).flatten := List.mem_flatten.2 ⟨w, hw, hx⟩
  rw [flatten_words] at this
  exact (List.mem_filter.1 this).1

theorem words_eq_nil_iff {name : List Char} : words name = [] ↔ ∀ c ∈ name, isAlphanumeric c = false := by
  constructor
  · intro none c hc
    have kept := flatten_words name
    rw [none, List.flatten_nil] at kept
    simpa using List.filter_eq_nil_iff.1 kept.symm c hc
  · intro separators
    refine List.eq_nil_iff_forall_not_mem.2 fun w hw => ?_
    have ne : w ≠ [] := fun empty => nil_notMem_words name (empty ▸ hw)
    obtain ⟨c, rest, rfl⟩ := List.exists_cons_of_ne_nil ne
    have letter := isAlphanumeric_of_mem_words hw List.mem_cons_self
    rw [separators c (mem_of_mem_words hw List.mem_cons_self)] at letter
    cases letter

/-! ## Single words -/

/-- No new word begins inside the text. -/
def Unbroken : List Char → Prop
  | [] => True
  | [_] => True
  | a :: x :: rest => startsWord a x rest.head? = false ∧ Unbroken (x :: rest)

/-- A text is one word if it is made of letters and numbers and no word begins inside it. -/
theorem words_eq_singleton_iff {w : List Char} (h : w ≠ []) :
    words w = [w] ↔ (∀ c ∈ w, isAlphanumeric c = true) ∧ Unbroken w := by
  constructor
  · intro single
    have letters : ∀ c ∈ w, isAlphanumeric c = true := fun c hc =>
      isAlphanumeric_of_mem_words (single ▸ List.mem_singleton_self w) hc
    refine ⟨letters, ?_⟩
    induction w with
    | nil => trivial
    | cons a rest ih =>
      cases rest with
      | nil => trivial
      | cons x rest =>
        obtain ⟨ha, hr⟩ := List.forall_mem_cons.1 letters
        rw [words_letter ha] at single
        split at single
        · rename_i goes
          obtain ⟨d, tail, hd, -, starts⟩ := exists_of_continues goes
          obtain ⟨rfl, rfl⟩ := List.cons.inj hd
          cases hw : words (x :: rest) with
          | nil => exact absurd hw (words_ne_nil_of_continues goes)
          | cons v others =>
            rw [hw, attach] at single
            obtain ⟨same, rfl⟩ := List.cons.inj single
            obtain rfl : v = x :: rest := (List.cons.inj same).2
            exact ⟨starts, ih (by simp) hw hr⟩
        · simp at single
  · rintro ⟨letters, unbroken⟩
    induction w with
    | nil => exact absurd rfl h
    | cons a rest ih =>
      obtain ⟨ha, hr⟩ := List.forall_mem_cons.1 letters
      rw [words_letter ha]
      cases rest with
      | nil => rfl
      | cons x rest =>
        have goes : continues a (x :: rest) = true := by
          rw [continues, hr x List.mem_cons_self, unbroken.1]
          rfl
        rw [if_pos goes, ih (by simp) hr unbroken.2]
        rfl

/-- New words begin with large letters. -/
theorem unbroken_of_small {w : List Char} (h : ∀ c ∈ w.tail, isUppercase c = false) : Unbroken w := by
  match w with
  | [] => trivial
  | [_] => trivial
  | a :: x :: rest =>
    obtain ⟨hx, hr⟩ := List.forall_mem_cons.1 h
    exact ⟨by rw [startsWord, hx, Bool.false_and], unbroken_of_small hr⟩

/-- The first word of a name that starts with one is a beginning of the name. -/
theorem prefix_of_words {c : Char} (h : isAlphanumeric c = true) {rest w : List Char} {others : List (List Char)}
    (hw : words (c :: rest) = w :: others) : ∃ tail, w = c :: tail ∧ tail <+: rest := by
  induction rest generalizing c w others with
  | nil =>
    rw [words_letter h] at hw
    exact ⟨[], (List.cons.inj hw).1.symm, List.prefix_rfl⟩
  | cons d rest ih =>
    rw [words_letter h] at hw
    split at hw
    · rename_i goes
      obtain ⟨_, _, hd, letter, -⟩ := exists_of_continues goes
      obtain ⟨rfl, rfl⟩ := List.cons.inj hd
      cases hv : words (d :: rest) with
      | nil => exact absurd hv (words_ne_nil letter rest)
      | cons v more =>
        rw [hv] at hw
        obtain ⟨tail, rfl, pre⟩ := ih letter hv
        exact ⟨d :: tail, (List.cons.inj hw).1.symm, List.cons_prefix_cons.2 ⟨rfl, pre⟩⟩
    · exact ⟨[], (List.cons.inj hw).1.symm, List.nil_prefix⟩

theorem startsWord_of_prefix {a x : Char} {tail rest : List Char} (h : tail <+: rest)
    (hs : startsWord a x rest.head? = false) : startsWord a x tail.head? = false := by
  obtain ⟨more, rfl⟩ := h
  cases tail with
  | nil =>
    -- without a next character there is one reason less to begin a word
    cases more with
    | nil => exact hs
    | cons b more =>
      simp only [startsWord, List.nil_append, List.head?_cons, List.head?_nil, Option.any_some, Option.any_none,
        Bool.and_false, Bool.or_false] at hs ⊢
      cases hx : isUppercase x <;> simp_all
  | cons b tail => exact hs

/-- A word cut again is itself. -/
theorem words_of_mem_words {name w : List Char} (h : w ∈ words name) : words w = [w] := by
  induction name generalizing w with
  | nil => cases h
  | cons c rest ih =>
    cases letter : isAlphanumeric c with
    | false => exact ih (words_separator letter rest ▸ h)
    | true =>
      have single : words [c] = [[c]] := by rw [words_letter letter]; rfl
      rw [words_letter letter] at h
      split at h
      · rename_i goes
        obtain ⟨d, tail, rfl, hd, starts⟩ := exists_of_continues goes
        cases hw : words (d :: tail) with
        | nil => exact absurd hw (words_ne_nil hd tail)
        | cons v others =>
          rw [hw, attach] at h
          rcases List.mem_cons.1 h with rfl | h
          · obtain ⟨more, rfl, pre⟩ := prefix_of_words hd hw
            have own := ih (hw ▸ List.mem_cons_self)
            obtain ⟨letters, unbroken⟩ := (words_eq_singleton_iff (by simp)).1 own
            exact (words_eq_singleton_iff (by simp)).2
              ⟨List.forall_mem_cons.2 ⟨letter, letters⟩, startsWord_of_prefix pre starts, unbroken⟩
          · exact ih (hw ▸ List.mem_cons_of_mem v h)
      · rcases List.mem_cons.1 h with rfl | h
        · exact single
        · exact ih h

/-! ## Texts side by side -/

/-- Only a small letter behind it changes what a text goes on with. -/
theorem continues_append {c : Char} {u v : List Char} (hu : u ≠ []) (hv : v.head?.any isLowercase = false) :
    continues c (u ++ v) = continues c u := by
  match u with
  | [] => exact absurd rfl hu
  | [d] => simp [continues, startsWord, hv]
  | d :: e :: u => rfl

theorem words_append_separator {sep : Char} (h : isAlphanumeric sep = false) (u v : List Char) :
    words (u ++ sep :: v) = words u ++ words v := by
  have large : (sep :: v).head?.any isLowercase = false := by
    rw [List.head?_cons, Option.any_some, Bool.eq_false_iff]
    intro small
    rw [isAlphanumeric_of_isLowercase small] at h
    cases h
  induction u with
  | nil => exact words_separator h v
  | cons c u ih =>
    cases letter : isAlphanumeric c with
    | false => rw [List.cons_append, words_separator letter, words_separator letter, ih]
    | true =>
      have goes : continues c (u ++ sep :: v) = continues c u := by
        cases u with
        | nil => simp [continues, h]
        | cons d u => exact continues_append (by simp) large
      rw [List.cons_append, words_letter letter, words_letter letter, goes, ih]
      split
      · rename_i goes
        exact attach_append (words_ne_nil_of_continues goes) [c] (words v)
      · rfl

/-- A word in front of a text that starts with no small letter stays whole: it runs together with the first word
of the text or stands for itself. -/
theorem words_append_word {u v : List Char} {c : Char} (hu : words (u ++ [c]) = [u ++ [c]])
    (hv : v.head?.any isLowercase = false) :
    words (u ++ c :: v) = if continues c v then attach (u ++ [c]) (words v) else (u ++ [c]) :: words v := by
  obtain ⟨letters, unbroken⟩ := (words_eq_singleton_iff (by simp)).1 hu
  clear hu
  induction u with
  | nil => exact words_letter (letters c List.mem_cons_self) v
  | cons a u ih =>
    rw [List.cons_append] at letters
    obtain ⟨ha, hr⟩ := List.forall_mem_cons.1 letters
    obtain ⟨x, rest, hx⟩ : ∃ x rest, u ++ [c] = x :: rest := List.exists_cons_of_ne_nil (by simp)
    rw [List.cons_append, hx] at unbroken
    have goes : continues a (u ++ c :: v) = true := by
      have : u ++ c :: v = x :: rest ++ v := by simp [← hx]
      rw [this, continues_append (by simp) hv, continues, hr x (hx ▸ List.mem_cons_self), unbroken.1]
      rfl
    rw [List.cons_append, words_letter ha, if_pos goes, ih hr (hx ▸ unbroken.2)]
    split
    · cases words v <;> simp [attach]
    · rfl

end LineRules.Naming
