/-
Names in snake case. The words of a name in snake case are the words of its words in lower case, so a name is
settled, that is, it stays as it is when it is put into snake case again, exactly if lowering tears none of its
words apart. On ASCII nothing is ever torn apart, and the names in snake case are those of a regular expression.
Elsewhere two kinds of letters do it: `İ`, whose small form holds a separator, and capital letters without a
small form, in front of which a new word begins as soon as the letter before them has become small.
-/
import LineRules.Proofs.Compose.WellFormed
import LineRules.Proofs.Naming.Words
import LineRules.Proofs.Text.Ascii
import Mathlib.Computability.RegularExpressions
import Mathlib.Data.List.Infix

namespace LineRules.Naming

open Text

/-! ## Words between underscores -/

theorem underscored_eq_intercalate (ws : List (List Char)) : underscored ws = ['_'].intercalate ws := by
  induction ws with
  | nil => rfl
  | cons word rest ih =>
    cases rest with
    | nil => simp [underscored, List.intercalate]
    | cons next rest =>
      show word ++ '_' :: underscored (next :: rest) = _
      rw [ih]
      simp [List.intercalate]

theorem isAlphanumeric_underscore : isAlphanumeric '_' = false := isAlphanumeric_ascii (by decide)

theorem words_underscored (ws : List (List Char)) : words (underscored ws) = ws.flatMap words := by
  induction ws with
  | nil => rfl
  | cons word rest ih =>
    cases rest with
    | nil => simp [underscored]
    | cons next rest =>
      show words (word ++ '_' :: underscored (next :: rest)) = _
      rw [words_append_separator isAlphanumeric_underscore, ih]
      rfl

/-- Texts that can stand between underscores. -/
def Separable (ws : List (List Char)) : Prop := ∀ w ∈ ws, w ≠ [] ∧ '_' ∉ w

theorem underscored_eq_nil_iff {ws : List (List Char)} (h : Separable ws) : underscored ws = [] ↔ ws = [] := by
  constructor
  · intro empty
    cases ws with
    | nil => rfl
    | cons word rest =>
      have first := (h word List.mem_cons_self).1
      cases rest with
      | nil => exact absurd empty first
      | cons next rest => exact absurd (List.append_eq_nil_iff.1 empty).1 first
  · rintro rfl
    rfl

theorem splitOn_underscored {ws : List (List Char)} (h : Separable ws) (ne : ws ≠ []) :
    (underscored ws).splitOn '_' = ws := by
  rw [underscored_eq_intercalate]
  exact List.splitOn_intercalate '_' (fun w hw => (h w hw).2) ne

theorem underscored_injective {ws ws' : List (List Char)} (h : Separable ws) (h' : Separable ws')
    (eq : underscored ws = underscored ws') : ws = ws' := by
  by_cases ne : ws = []
  · subst ne
    exact ((underscored_eq_nil_iff h').1 eq.symm).symm
  · have ne' : ws' ≠ [] := by
      rintro rfl
      exact ne ((underscored_eq_nil_iff h).1 eq)
    rw [← splitOn_underscored h ne, eq, splitOn_underscored h' ne']

/-! ## Lowering twice -/

theorem lower_ne_nil {w : List Char} (h : w ≠ []) : lower w ≠ [] := by
  have expands : ∀ c, lowerChar c ≠ [] := by
    intro c
    cases small : hasSmallForm c with
    | false => simp [lowerChar_eq_self small]
    | true =>
      by_cases dotted : c = 'İ'
      · simp [dotted, letters_apart.1]
      · obtain ⟨d, hd, -⟩ := lowerChar_of_hasSmallForm small dotted
        simp [hd]
  cases w with
  | nil => exact absurd rfl h
  | cons c rest =>
    rw [lower, lowerAfter]
    split <;> simp [expands]

/-- The words in lower case hold no underscore. -/
theorem separable_lowered (name : List Char) : Separable ((words name).map lower) := by
  intro l hl
  obtain ⟨w, hw, rfl⟩ := List.mem_map.1 hl
  refine ⟨lower_ne_nil fun empty => nil_notMem_words name (empty ▸ hw), fun mem => ?_⟩
  have : isAlphanumeric '_' = true := by
    rcases mem_lowerAfter mem with ⟨mem, -⟩ | small | dot
    · exact isAlphanumeric_of_mem_words hw mem
    · exact isAlphanumeric_of_isLowercase small
    · cases dot
  rw [isAlphanumeric_underscore] at this
  cases this

/-- The words of a text in lower case are in lower case. -/
theorem lower_of_mem_words {cs w : List Char} (h : w ∈ words (lower cs)) : lower w = w :=
  lowerAfter_eq_self (fun _ hx => hasSmallForm_of_mem_lowerAfter (mem_of_mem_words h hx)) []

theorem snake_snake (name : List Char) :
    snake (snake name) = underscored (((words name).map lower).flatMap words) := by
  have lowered : ∀ w ∈ ((words name).map lower).flatMap words, lower w = w := by
    intro w hw
    obtain ⟨l, hl, hw⟩ := List.mem_flatMap.1 hw
    obtain ⟨v, -, rfl⟩ := List.mem_map.1 hl
    exact lower_of_mem_words hw
  rw [snake, snake, words_underscored, List.map_congr_left lowered, List.map_id']

/-- Cutting texts into words leaves them as they are only if each of them is one word. -/
theorem flatMap_words_eq_self {ls : List (List Char)} (ne : [] ∉ ls) (h : ls.flatMap words = ls) :
    ∀ l ∈ ls, words l = [l] := by
  -- no character is lost, so none of them is a separator
  have letters : ∀ c ∈ ls.flatten, isAlphanumeric c = true := by
    have kept : (ls.flatMap words).flatten = ls.flatten.filter isAlphanumeric := by
      rw [List.flatMap, List.flatten_flatten, List.filter_flatten, List.map_map]
      simp [Function.comp_def, flatten_words]
    rw [h] at kept
    exact List.filter_eq_self.1 kept.symm
  induction ls with
  | nil => simp
  | cons l rest ih =>
    obtain ⟨c, tail, rfl⟩ := List.exists_cons_of_ne_nil fun empty => ne (empty ▸ List.mem_cons_self)
    cases hw : words (c :: tail) with
    | nil => exact absurd hw (words_ne_nil (letters c (by simp)) tail)
    | cons v vs =>
      rw [List.flatMap_cons, hw, List.cons_append] at h
      obtain ⟨rfl, hrest⟩ := List.cons.inj h
      -- the first word is all of the text already
      have own : (c :: tail).filter isAlphanumeric = c :: tail :=
        List.filter_eq_self.2 fun x hx => letters x (List.mem_flatten.2 ⟨_, List.mem_cons_self, hx⟩)
      have none : vs = [] := by
        have all := flatten_words (c :: tail)
        rw [hw, own, List.flatten_cons] at all
        have empty : vs.flatten = [] := by simpa using all
        refine List.eq_nil_iff_forall_not_mem.2 fun w mem => ?_
        have : w = [] := List.flatten_eq_nil_iff.1 empty w mem
        exact nil_notMem_words (c :: tail) (hw ▸ List.mem_cons_of_mem _ (this ▸ mem))
      subst none
      refine List.forall_mem_cons.2 ⟨hw, ih (fun mem => ne (List.mem_cons_of_mem _ mem)) hrest fun x hx => ?_⟩
      exact letters x (List.mem_append_right _ hx)

theorem snake_snake_iff (name : List Char) :
    snake (snake name) = snake name ↔ ∀ w ∈ words name, words (lower w) = [lower w] := by
  have lowered : (∀ w ∈ words name, words (lower w) = [lower w]) ↔ ∀ l ∈ (words name).map lower, words l = [l] := by
    simp
  rw [snake_snake, snake, lowered]
  have separable := separable_lowered name
  generalize (words name).map lower = ls at separable ⊢
  have nonempty : [] ∉ ls := fun mem => (separable [] mem).1 rfl
  constructor
  · intro same
    refine flatMap_words_eq_self nonempty (underscored_injective ?_ separable same)
    intro w hw
    obtain ⟨l, hl, hw⟩ := List.mem_flatMap.1 hw
    exact ⟨fun empty => nil_notMem_words l (empty ▸ hw), fun mem => (separable l hl).2 (mem_of_mem_words hw mem)⟩
  · intro single
    rw [List.flatMap_congr single, List.flatMap_singleton']

/-! ## Words that lowering tears apart -/

/-- A capital letter that has no small form. -/
def isLoneCapital (c : Char) : Bool := isUppercase c && !hasSmallForm c

/-- The word is still one word when it is in lower case. -/
structure StaysWhole (w : List Char) : Prop where
  /-- No letter leaves a separator behind. -/
  undotted : 'İ' ∉ w
  /-- No capital letter that stays large stands behind a letter that becomes small. -/
  behind : ∀ a x, [a, x] <:+: w → hasSmallForm a = true → isLoneCapital x = false
  /-- No capital letter that stays large stands between another and a letter that becomes small. -/
  between : ∀ a x b, [a, x, b] <:+: w → isLoneCapital a = true → isLoneCapital x = true → hasSmallForm b = false

/-- Where no new word began before lowering, one begins after it only in front of a capital letter that stays
large. -/
theorem startsWord_lowered {a x a' x' : Char} {rest rest' : List Char} (ha : Lowered a a') (hx : Lowered x x')
    (hr : List.Forall₂ Lowered rest rest') (h : startsWord a x rest.head? = false) :
    startsWord a' x' rest'.head? = false ↔
      (hasSmallForm a = true → isLoneCapital x = false) ∧
        ∀ b, rest.head? = some b → isLoneCapital a = true → isLoneCapital x = true → hasSmallForm b = false := by
  cases smallX : hasSmallForm x with
  | true =>
    have : isLowercase x' = true := by simpa [Lowered, smallX] using hx
    simp [startsWord, isUppercase_of_isLowercase this, isLoneCapital, smallX]
  | false =>
    obtain rfl : x' = x := by simpa [Lowered, smallX] using hx
    cases upperX : isUppercase x' with
    | false => simp [startsWord, upperX, isLoneCapital]
    | true =>
      cases smallA : hasSmallForm a with
      | true =>
        have : isLowercase a' = true := by simpa [Lowered, smallA] using ha
        simp [startsWord, this, upperX, isLoneCapital, smallX]
      | false =>
        obtain rfl : a' = a := by simpa [Lowered, smallA] using ha
        simp only [startsWord, upperX, Bool.true_and, Bool.or_eq_false_iff] at h
        obtain ⟨⟨lowerA, digitA⟩, next⟩ := h
        -- what is left is whether the letter after `x` has become small
        simp only [startsWord, upperX, lowerA, digitA, isLoneCapital, smallA, smallX, Bool.true_and, Bool.false_or]
        cases hr with
        | nil => simp
        | @cons b b' rest rest' hb hr =>
          cases upperA : isUppercase a' with
          | false => simp
          | true =>
            have lowerB : isLowercase b = false := by simpa [upperA] using next
            cases smallB : hasSmallForm b with
            | true => simpa [Lowered, smallB] using hb
            | false =>
              obtain rfl : b' = b := by simpa [Lowered, smallB] using hb
              simp [lowerB, smallB]

theorem pair_infix_iff {b y a x : Char} {rest : List Char} :
    [b, y] <:+: a :: x :: rest ↔ (b = a ∧ y = x) ∨ [b, y] <:+: x :: rest := by
  rw [List.infix_cons_iff]
  simp [List.cons_prefix_cons]

theorem triple_infix_iff {b y c a x : Char} {rest : List Char} :
    [b, y, c] <:+: a :: x :: rest ↔ (b = a ∧ y = x ∧ rest.head? = some c) ∨ [b, y, c] <:+: x :: rest := by
  have first : [c] <+: rest ↔ rest.head? = some c := by cases rest <;> simp [List.cons_prefix_cons, eq_comm]
  rw [List.infix_cons_iff]
  simp [List.cons_prefix_cons, first]

theorem unbroken_lowered_iff {w l : List Char} (hl : List.Forall₂ Lowered w l) (h : Unbroken w) :
    Unbroken l ↔
      (∀ a x, [a, x] <:+: w → hasSmallForm a = true → isLoneCapital x = false) ∧
      ∀ a x b, [a, x, b] <:+: w → isLoneCapital a = true → isLoneCapital x = true → hasSmallForm b = false := by
  induction hl with
  | nil => simp [Unbroken]
  | @cons a a' rest rest' ha hr ih =>
    cases hr with
    | nil => simp [Unbroken, List.infix_cons_iff]
    | @cons x x' rest rest' hx hr =>
      rw [Unbroken, startsWord_lowered ha hx hr h.1, ih h.2]
      constructor
      · rintro ⟨⟨behind, between⟩, behinds, betweens⟩
        refine ⟨fun b y hi => ?_, fun b y c hi => ?_⟩
        · rcases pair_infix_iff.1 hi with ⟨rfl, rfl⟩ | hi
          · exact behind
          · exact behinds b y hi
        · rcases triple_infix_iff.1 hi with ⟨rfl, rfl, next⟩ | hi
          · exact between c next
          · exact betweens b y c hi
      · rintro ⟨behind, between⟩
        exact ⟨⟨behind a x (pair_infix_iff.2 (.inl ⟨rfl, rfl⟩)),
            fun b next => between a x b (triple_infix_iff.2 (.inl ⟨rfl, rfl, next⟩))⟩,
          fun b y hi => behind b y (pair_infix_iff.2 (.inr hi)),
          fun b y c hi => between b y c (triple_infix_iff.2 (.inr hi))⟩

theorem isAlphanumeric_lowered {w l : List Char} (hl : List.Forall₂ Lowered w l)
    (h : ∀ c ∈ w, isAlphanumeric c = true) : ∀ x ∈ l, isAlphanumeric x = true := by
  induction hl with
  | nil => simp
  | @cons c d w l hc hl ih =>
    obtain ⟨letter, letters⟩ := List.forall_mem_cons.1 h
    refine List.forall_mem_cons.2 ⟨?_, ih letters⟩
    rw [Lowered] at hc
    split at hc
    · exact isAlphanumeric_of_isLowercase hc
    · rwa [hc]

/-- What becomes of a word in lower case. -/
theorem words_lower_iff {w : List Char} (h : words w = [w]) (ne : w ≠ []) :
    words (lower w) = [lower w] ↔ StaysWhole w := by
  obtain ⟨letters, unbroken⟩ := (words_eq_singleton_iff ne).1 h
  rw [words_eq_singleton_iff (lower_ne_nil ne)]
  constructor
  · rintro ⟨lowered, whole⟩
    have undotted : 'İ' ∉ w := by
      intro dotted
      obtain ⟨-, -, -, separator, -⟩ := letters_apart
      rw [lowered '\u0307' (dot_mem_lowerAfter dotted [])] at separator
      cases separator
    obtain ⟨behind, between⟩ := (unbroken_lowered_iff (forall₂_lowerAfter undotted []) unbroken).1 whole
    exact ⟨undotted, behind, between⟩
  · rintro ⟨undotted, behind, between⟩
    have lowered := forall₂_lowerAfter undotted []
    exact ⟨isAlphanumeric_lowered lowered letters, (unbroken_lowered_iff lowered unbroken).2 ⟨behind, between⟩⟩

/-! ## A regular expression -/

/-- The characters of words in snake case. -/
def smallLetters : List Char := "abcdefghijklmnopqrstuvwxyz0123456789".toList

/-- One character of a list. -/
def oneOf (cs : List Char) : RegularExpression Char := cs.foldr (fun c r => .char c + r) 0

/-- One or more characters of a list. -/
def someOf (cs : List Char) : RegularExpression Char := oneOf cs * (oneOf cs).star

/-- The regular expression `[a-z0-9]+(_[a-z0-9]+)*`. -/
def snakeNames : RegularExpression Char := someOf smallLetters * (.char '_' * someOf smallLetters).star

open RegularExpression in
theorem mem_oneOf {cs x : List Char} : x ∈ (oneOf cs).matches' ↔ ∃ c ∈ cs, x = [c] := by
  induction cs with
  | nil => simp [oneOf, Language.notMem_zero]
  | cons c cs ih =>
    have split : oneOf (c :: cs) = .char c + oneOf cs := rfl
    have first : x ∈ (char c).matches' ↔ x = [c] := Iff.rfl
    rw [split, matches'_add, Language.mem_add, ih, first]
    simp

open RegularExpression in
theorem mem_someOf {cs x : List Char} : x ∈ (someOf cs).matches' ↔ x ≠ [] ∧ ∀ c ∈ x, c ∈ cs := by
  rw [someOf, matches'_mul, matches'_star, Language.mem_mul]
  constructor
  · rintro ⟨a, ha, b, hb, rfl⟩
    obtain ⟨c, hc, rfl⟩ := mem_oneOf.1 ha
    obtain ⟨parts, rfl, hp⟩ := Language.mem_kstar.1 hb
    refine ⟨by simp, List.forall_mem_cons.2 ⟨hc, fun d hd => ?_⟩⟩
    obtain ⟨part, mem, hd⟩ := List.mem_flatten.1 hd
    obtain ⟨e, he, rfl⟩ := mem_oneOf.1 (hp part mem)
    rwa [List.mem_singleton.1 hd]
  · rintro ⟨ne, all⟩
    cases x with
    | nil => exact absurd rfl ne
    | cons c rest =>
      obtain ⟨hc, hr⟩ := List.forall_mem_cons.1 all
      have letters : rest = (rest.map fun d => [d]).flatten := by rw [← List.flatMap_def, List.flatMap_singleton']
      refine ⟨[c], mem_oneOf.2 ⟨c, hc, rfl⟩, rest, Language.mem_kstar.2 ⟨_, letters, fun part mem => ?_⟩, rfl⟩
      obtain ⟨d, hd, rfl⟩ := List.mem_map.1 mem
      exact mem_oneOf.2 ⟨d, hr d hd, rfl⟩

/-- Words of small letters and digits. -/
def AllSmall (ws : List (List Char)) : Prop := ∀ w ∈ ws, w ≠ [] ∧ ∀ c ∈ w, c ∈ smallLetters

theorem underscored_cons (w : List Char) (ws : List (List Char)) :
    underscored (w :: ws) = w ++ (ws.map ('_' :: ·)).flatten := by
  induction ws generalizing w with
  | nil => simp [underscored]
  | cons next rest ih =>
    show w ++ '_' :: underscored (next :: rest) = _
    rw [ih]
    simp

open RegularExpression in
/-- The names that the regular expression describes are words of small letters between underscores. -/
theorem mem_snakeNames {name : List Char} :
    name ∈ snakeNames.matches' ↔ ∃ ws, ws ≠ [] ∧ AllSmall ws ∧ name = underscored ws := by
  rw [snakeNames, matches'_mul, matches'_star, matches'_mul, Language.mem_mul]
  constructor
  · rintro ⟨w, hw, b, hb, rfl⟩
    obtain ⟨parts, rfl, hp⟩ := Language.mem_kstar.1 hb
    have part : ∀ p ∈ parts, ∃ v, v ∈ (someOf smallLetters).matches' ∧ p = '_' :: v := by
      intro p mem
      obtain ⟨u, hu, v, hv, rfl⟩ := Language.mem_mul.1 (hp p mem)
      exact ⟨v, hv, by rw [Set.mem_singleton_iff.1 hu]; rfl⟩
    refine ⟨w :: parts.map List.tail, by simp, ?_, ?_⟩
    · refine List.forall_mem_cons.2 ⟨mem_someOf.1 hw, List.forall_mem_map.2 fun p mem => ?_⟩
      obtain ⟨v, hv, rfl⟩ := part p mem
      exact mem_someOf.1 hv
    · have same : ∀ p ∈ parts, (('_' :: ·) ∘ List.tail) p = p := by
        intro p mem
        obtain ⟨v, -, rfl⟩ := part p mem
        rfl
      rw [underscored_cons, List.map_map, List.map_congr_left same, List.map_id']
  · rintro ⟨ws, ne, small, rfl⟩
    cases ws with
    | nil => exact absurd rfl ne
    | cons w ws =>
      obtain ⟨hw, hs⟩ := List.forall_mem_cons.1 small
      refine ⟨w, mem_someOf.2 hw, _, Language.mem_kstar.2 ⟨ws.map ('_' :: ·), rfl, fun p mem => ?_⟩,
        (underscored_cons w ws).symm⟩
      obtain ⟨v, hv, rfl⟩ := List.mem_map.1 mem
      exact Language.mem_mul.2 ⟨['_'], rfl, v, mem_someOf.2 (hs v hv), rfl⟩

theorem smallLetters_facts : ∀ c ∈ smallLetters,
    isAlphanumeric c = true ∧ isUppercase c = false ∧ hasSmallForm c = false := by
  have facts : (smallLetters.all fun c => isAlphanumeric c && !isUppercase c && !hasSmallForm c) = true := by
    decide +kernel
  simpa [and_assoc] using facts

theorem AllSmall.separable {ws : List (List Char)} (h : AllSmall ws) : Separable ws := by
  have underscore : '_' ∉ smallLetters := fun mem => by
    have letter := (smallLetters_facts '_' mem).1
    rw [isAlphanumeric_underscore] at letter
    cases letter
  exact fun w hw => ⟨(h w hw).1, fun mem => underscore ((h w hw).2 _ mem)⟩

/-- Words of small letters between underscores are found again. -/
theorem AllSmall.words_underscored {ws : List (List Char)} (h : AllSmall ws) : words (underscored ws) = ws := by
  have single : ∀ w ∈ ws, words w = [w] := by
    intro w hw
    obtain ⟨ne, small⟩ := h w hw
    exact (words_eq_singleton_iff ne).2 ⟨fun c hc => (smallLetters_facts c (small c hc)).1,
      unbroken_of_small fun c hc => (smallLetters_facts c (small c (List.mem_of_mem_tail hc))).2.1⟩
  rw [Naming.words_underscored, List.flatMap_congr single, List.flatMap_singleton']

/-- Words of small letters between underscores are in snake case. -/
theorem snake_underscored {ws : List (List Char)} (h : AllSmall ws) : snake (underscored ws) = underscored ws := by
  have lowered : ∀ w ∈ ws, lower w = w := fun w hw =>
    lowerAfter_eq_self (fun c hc => (smallLetters_facts c ((h w hw).2 c hc)).2.2) []
  rw [snake, h.words_underscored, List.map_congr_left lowered, List.map_id']

/-- The words of a name of ASCII are words of small letters when they are in lower case. -/
theorem allSmall_lowered {name : List Char} (h : ∀ c ∈ name, IsAscii c) : AllSmall ((words name).map lower) := by
  have toLower : ∀ {c}, IsAscii c → c.isAlphanum = true → c.toLower ∈ smallLetters :=
    fun h => h.induction (by decide +kernel)
  intro l hl
  obtain ⟨w, hw, rfl⟩ := List.mem_map.1 hl
  have ascii : ∀ c ∈ w, IsAscii c := fun c hc => h c (mem_of_mem_words hw hc)
  refine ⟨(separable_lowered name _ hl).1, fun x hx => ?_⟩
  rw [lower, lowerAfter_ascii ascii] at hx
  obtain ⟨c, hc, rfl⟩ := List.mem_map.1 hx
  have letter := isAlphanumeric_of_mem_words hw hc
  rw [isAlphanumeric_ascii (ascii c hc)] at letter
  exact toLower (ascii c hc) letter

end LineRules.Naming

namespace LineRules.NamingPolicy

open Text Naming

/-! ## Names that are settled -/

theorem normalize_snake_eq_iff {name other : String} :
    snake.normalize name = other ↔ Naming.snake name.toList = other.toList := by
  rw [normalize, ← String.toList_inj, String.toList_ofList]

/-- A name is settled once it is in snake case, and its normal form is accepted where the name was refused,
exactly if every word of the name stays whole in lower case. -/
theorem snake_settles_iff (name : String) :
    (snake.normalize (snake.normalize name) = snake.normalize name ↔
      ∀ w ∈ words name.toList, StaysWhole w) ∧
    ∀ {τ : Type} (c : Composer τ) (what : Named) (pos : Pos) (d : Draft τ) (suggestion : String),
      c.normalize = snake.normalize → snake.normalize name ≠ "" →
      (c.checkName what name pos d).1 = .error ⟨c.rule, pos, .invalidIdentifier what name suggestion⟩ →
      ((c.checkName what suggestion pos d).1 = .ok () ↔ ∀ w ∈ words name.toList, StaysWhole w) := by
  have settled : snake.normalize (snake.normalize name) = snake.normalize name ↔
      ∀ w ∈ words name.toList, StaysWhole w := by
    rw [normalize_snake_eq_iff, normalize, String.toList_ofList, snake_snake_iff]
    refine forall₂_congr fun w hw => words_lower_iff (words_of_mem_words hw) ?_
    exact fun empty => nil_notMem_words _ (empty ▸ hw)
  exact ⟨settled, fun c what pos d suggestion policy ne refused =>
    (Composer.checkName_suggestion_ok_iff policy refused ne).trans settled⟩

/-- The small form of `İ` is cut at its dot, and behind a letter that has become small a capital letter without
a small form begins a word. -/
theorem snake_unsettled :
    snake.normalize "İ" = "i\u0307" ∧ snake.normalize "i\u0307" = "i" ∧
      snake.normalize "B𝐀" = "b𝐀" ∧ snake.normalize "b𝐀" = "b_𝐀" := by
  decide +kernel

/-- On ASCII, snake case leaves nothing of a name exactly if it has no letter and no digit, and else gives a name
that the regular expression describes; and the names that are accepted are those that it describes. -/
theorem snake_ascii_grammar (name : String) (ascii : ∀ c ∈ name.toList, IsAscii c) :
    (snake.normalize name = "" ↔ ∀ c ∈ name.toList, c.isAlphanum = false) ∧
    (snake.normalize name = "" ∨ (snake.normalize name).toList ∈ snakeNames.matches') ∧
    ∀ {τ : Type} (c : Composer τ) (what : Named) (pos : Pos) (d : Draft τ), c.normalize = snake.normalize →
      ((c.checkName what name pos d).1 = .ok () ↔ name.toList ∈ snakeNames.matches') := by
  have small := allSmall_lowered ascii
  have empty : snake.normalize name = "" ↔ words name.toList = [] := by
    rw [normalize_snake_eq_iff, Naming.snake, String.toList_empty,
      underscored_eq_nil_iff (separable_lowered _), List.map_eq_nil_iff]
  have described : words name.toList ≠ [] → (snake.normalize name).toList ∈ snakeNames.matches' := by
    intro ne
    rw [normalize, String.toList_ofList]
    exact mem_snakeNames.2 ⟨_, by simpa using ne, small, rfl⟩
  refine ⟨?_, ?_, fun c what pos d policy => ?_⟩
  · rw [empty, words_eq_nil_iff]
    exact forall₂_congr fun c hc => by rw [isAlphanumeric_ascii (ascii c hc)]
  · rw [empty]
    exact or_iff_not_imp_left.2 described
  · rw [Composer.checkName_ok_iff, Composer.expectedName_eq_iff policy]
    constructor
    · rintro ⟨ne, own⟩
      have := described fun none => ne (own.symm.trans (empty.2 none))
      rwa [own] at this
    · intro matched
      obtain ⟨ws, some, allSmall, hn⟩ := mem_snakeNames.1 matched
      have ne : name ≠ "" := by
        rintro rfl
        exact some ((underscored_eq_nil_iff allSmall.separable).1 hn.symm)
      exact ⟨ne, by rw [normalize_snake_eq_iff, hn, snake_underscored allSmall]⟩

theorem snake_ascii_grammar_acronym :
    (∀ c ∈ "HTTPServer-2".toList, IsAscii c) ∧
      (snake.normalize "HTTPServer-2").toList ∈ snakeNames.matches' := by
  have ascii : ∀ c ∈ "HTTPServer-2".toList, IsAscii c := ascii_of_all (by decide)
  exact ⟨ascii, (snake_ascii_grammar _ ascii).2.1.resolve_left (by decide +kernel)⟩

end LineRules.NamingPolicy
