/-
Names in camel case. Nothing stands between the words of such a name, so the name is cut again only where its
letters show that a word begins: two words run together if the second starts with a digit, or if a large letter
meets another that no small one follows, as it is with initialisms and with words of one letter. What runs
together is capitalized as one word the next time. So a name of ASCII is settled, that is, it stays as it is when it
is put into camel case again, exactly if whatever runs together in it is in camel case as one word.
-/
import LineRules.Proofs.Compose.WellFormed
import LineRules.Proofs.Naming.Words
import LineRules.Proofs.Text.Ascii
import Mathlib.Data.List.SplitBy

namespace LineRules.Naming

open Text

/-! ## Capitalized words -/

/-- A word of ASCII that starts with a large letter or a digit and is one word when it is cut again. -/
structure Capitalized (v : List Char) : Prop where
  ne : v ≠ []
  ascii : ∀ c ∈ v, IsAscii c
  word : words v = [v]
  large : v.head?.any isLowercase = false

theorem capitalized_initialism : ∀ v ∈ initialisms, Capitalized v := by
  have facts : ∀ v ∈ initialisms, v ≠ [] ∧ (v.all fun c => decide (IsAscii c)) = true ∧ words v = [v] ∧
      v.head?.any isLowercase = false := by
    decide +kernel
  intro v hv
  obtain ⟨ne, ascii, word, large⟩ := facts v hv
  exact ⟨ne, ascii_of_all ascii, word, large⟩

theorem capitalized_of_initialism {w : List Char} (known : upper w ∈ initialisms) : capitalized w = upper w := by
  unfold capitalized
  rw [if_pos (by simpa using known)]

theorem capitalized_cons {c : Char} {rest : List Char} (h : ∀ x ∈ c :: rest, IsAscii x)
    (other : upper (c :: rest) ∉ initialisms) :
    capitalized (c :: rest) = c.toUpper :: rest.map Char.toLower := by
  obtain ⟨hc, hr⟩ := List.forall_mem_cons.1 h
  unfold capitalized
  rw [if_neg (by simpa using other)]
  show upperChar c ++ lower rest = _
  rw [upperChar_ascii hc, lower, lowerAfter_ascii hr, List.singleton_append]

theorem length_capitalized {w : List Char} (h : ∀ c ∈ w, IsAscii c) : (capitalized w).length = w.length := by
  by_cases known : upper w ∈ initialisms
  · rw [capitalized_of_initialism known, upper_ascii h, List.length_map]
  · cases w with
    | nil => rfl
    | cons c rest => simp [capitalized_cons h known]

theorem capitalized_capitalized {w : List Char} (ne : w ≠ []) (h : ∀ c ∈ w, IsAscii c ∧ isAlphanumeric c = true) :
    Capitalized (capitalized w) := by
  by_cases known : upper w ∈ initialisms
  · rw [capitalized_of_initialism known]
    exact capitalized_initialism _ known
  · obtain ⟨c, rest, rfl⟩ := List.exists_cons_of_ne_nil ne
    rw [capitalized_cons (fun x hx => (h x hx).1) known]
    obtain ⟨hc, hr⟩ := List.forall_mem_cons.1 h
    obtain ⟨ascii, letter, large⟩ := toUpper_ascii hc.1 hc.2
    have small : ∀ x ∈ rest.map Char.toLower,
        IsAscii x ∧ isAlphanumeric x = true ∧ isUppercase x = false :=
      List.forall_mem_map.2 fun x hx => toLower_ascii (hr x hx).1 (hr x hx).2
    refine ⟨by simp, List.forall_mem_cons.2 ⟨ascii, fun x hx => (small x hx).1⟩, ?_, large⟩
    exact (words_eq_singleton_iff (by simp)).2
      ⟨List.forall_mem_cons.2 ⟨letter, fun x hx => (small x hx).2.1⟩, unbroken_of_small fun x hx => (small x hx).2.2⟩

/-! ## Words that run together -/

/-- No new word begins where the two words meet: the second starts with a digit, or both letters there are large
and no small one follows. -/
def runsOn (v v' : List Char) : Bool :=
  v'.head?.any isDigit || (v.getLast?.any isUppercase && !v'.tail.head?.any isLowercase)

/-- The words of a name in camel case, those that run together side by side in one list. -/
def camelRuns (name : List Char) : List (List (List Char)) := ((words name).map capitalized).splitBy runsOn

theorem Capitalized.letter {v : List Char} (h : Capitalized v) {c : Char} (hc : c ∈ v) : isAlphanumeric c = true :=
  ((words_eq_singleton_iff h.ne).1 h.word).1 c hc

theorem continues_eq_runsOn {u v : List Char} {a : Char} (hu : Capitalized (u ++ [a])) (hv : Capitalized v) :
    continues a v = runsOn (u ++ [a]) v := by
  obtain ⟨x, rest, rfl⟩ := List.exists_cons_of_ne_nil hv.ne
  have ha : a ∈ u ++ [a] := by simp
  have letter := hv.letter List.mem_cons_self
  have large : isLowercase x = false := by simpa using hv.large
  have last := classes_ascii (hu.ascii a ha) (hu.letter ha)
  have first := classes_ascii (hv.ascii x List.mem_cons_self) letter
  simp only [continues, startsWord, runsOn, letter, List.head?_cons, Option.any_some, List.getLast?_concat,
    List.tail_cons, Bool.true_and]
  rcases first with ⟨upper, -, digit⟩ | ⟨-, small, -⟩ | ⟨upper, -, digit⟩
  · rcases last with ⟨h₁, h₂, h₃⟩ | ⟨h₁, h₂, h₃⟩ | ⟨h₁, h₂, h₃⟩ <;> simp [upper, digit, h₁, h₂, h₃]
  · rw [large] at small
    cases small
  · simp [upper, digit]

/-- Runs of a list, from the second element on. -/
theorem splitBy_cons_cons {α : Type} (r : α → α → Bool) (a b : α) (l : List α) :
    ∃ g gs, (b :: l).splitBy r = g :: gs ∧
      (a :: b :: l).splitBy r = if r a b then (a :: g) :: gs else [a] :: g :: gs := by
  have runs : (b :: l).splitBy r ≠ [] := List.splitBy_ne_nil.2 (List.cons_ne_nil b l)
  obtain ⟨g, gs, hg⟩ := List.exists_cons_of_ne_nil runs
  refine ⟨g, gs, hg, ?_⟩
  split
  · rename_i related
    obtain ⟨flat, nonempty, chains, breaks⟩ := List.splitBy_eq_iff.1 hg
    have ne : g ≠ [] := fun empty => nonempty (empty ▸ List.mem_cons_self)
    obtain ⟨c, rest, rfl⟩ := List.exists_cons_of_ne_nil ne
    obtain ⟨rfl, -⟩ := List.cons.inj flat
    refine List.splitBy_eq_iff.2 ⟨by simp [flat], ?_, ?_, ?_⟩
    · simpa using fun mem => nonempty (List.mem_cons_of_mem _ mem)
    · obtain ⟨chain, others⟩ := List.forall_mem_cons.1 chains
      exact List.forall_mem_cons.2 ⟨List.isChain_cons_cons.2 ⟨related, chain⟩, others⟩
    · cases gs with
      | nil => simp
      | cons next gs =>
        obtain ⟨⟨_, hb, apart⟩, rest⟩ := List.isChain_cons_cons.1 breaks
        exact List.isChain_cons_cons.2 ⟨⟨by simp, hb, by simpa using apart⟩, rest⟩
  · rename_i unrelated
    have := List.splitBy_append_cons (r := r) (l := [a]) (a := b) l (by simpa using unrelated)
    rw [List.singleton_append, hg] at this
    exact this

theorem large_flatten {vs : List (List Char)} (h : ∀ v ∈ vs, Capitalized v) :
    vs.flatten.head?.any isLowercase = false := by
  cases vs with
  | nil => rfl
  | cons v vs =>
    have hv := h v List.mem_cons_self
    obtain ⟨c, rest, rfl⟩ := List.exists_cons_of_ne_nil hv.ne
    exact hv.large

/-- Put together, capitalized words are cut again into what runs together of them. -/
theorem words_flatten {vs : List (List Char)} (h : ∀ v ∈ vs, Capitalized v) :
    words vs.flatten = (vs.splitBy runsOn).map List.flatten := by
  induction vs with
  | nil => rfl
  | cons v rest ih =>
    obtain ⟨hv, hr⟩ := List.forall_mem_cons.1 h
    cases rest with
    | nil => simpa [List.splitBy, List.splitBy.loop] using hv.word
    | cons next rest =>
      obtain ⟨hn, hs⟩ := List.forall_mem_cons.1 hr
      obtain ⟨g, gs, hg, split⟩ := splitBy_cons_cons runsOn v next rest
      have later := ih hr
      rw [hg] at later
      obtain ⟨u, a, rfl⟩ : ∃ u a, v = u ++ [a] := ⟨_, _, (List.dropLast_append_getLast hv.ne).symm⟩
      have meets : continues a (next :: rest).flatten = runsOn (u ++ [a]) next := by
        rw [List.flatten_cons, continues_append hn.ne (large_flatten hs), continues_eq_runsOn hv hn]
      rw [List.flatten_cons, List.append_assoc, List.singleton_append, words_append_word hv.word (large_flatten hr),
        meets, later, split]
      split <;> simp [attach]

/-! ## Settled names -/

/-- An initialism in capitals, or else a word without large letters behind its first character. -/
structure InCamelCase (w : List Char) : Prop where
  initialism : upper w ∈ initialisms → upper w = w
  other : upper w ∉ initialisms → ∀ c ∈ w.tail, isUppercase c = false

instance (w : List Char) : Decidable (InCamelCase w) :=
  decidable_of_iff
    ((upper w ∈ initialisms → upper w = w) ∧ (upper w ∉ initialisms → (w.tail.all fun c => !isUppercase c) = true))
    ⟨fun h => ⟨h.1, by simpa using h.2⟩, fun h => ⟨h.initialism, by simpa using h.other⟩⟩

theorem capitalized_eq_self_iff {w : List Char} (ne : w ≠ []) (ascii : ∀ c ∈ w, IsAscii c)
    (letters : ∀ c ∈ w, isAlphanumeric c = true) (large : w.head?.any isLowercase = false) :
    capitalized w = w ↔ InCamelCase w := by
  by_cases known : upper w ∈ initialisms
  · rw [capitalized_of_initialism known]
    exact ⟨fun own => ⟨fun _ => own, fun other => absurd known other⟩, fun h => h.initialism known⟩
  · obtain ⟨c, rest, rfl⟩ := List.exists_cons_of_ne_nil ne
    obtain ⟨hc, hr⟩ := List.forall_mem_cons.1 ascii
    rw [capitalized_cons ascii known, toUpper_eq_self hc (by simpa using large), List.cons_inj_right]
    have small : rest.map Char.toLower = rest ↔ ∀ x ∈ rest, isUppercase x = false := by
      rw [← forall₂_congr fun x hx => toLower_eq_self_iff (hr x hx)]
      exact ⟨fun h => List.map_eq_map_iff.1 (h.trans rest.map_id'.symm),
        fun h => (List.map_congr_left h).trans rest.map_id'⟩
    rw [small]
    exact ⟨fun h => ⟨fun h' => absurd h' known, fun _ => h⟩, fun h => h.other known⟩

theorem flatMap_capitalized_eq_iff {ws : List (List Char)} (h : ∀ w ∈ ws, ∀ c ∈ w, IsAscii c) :
    ws.flatMap capitalized = ws.flatten ↔ ∀ w ∈ ws, capitalized w = w := by
  induction ws with
  | nil => simp
  | cons w rest ih =>
    obtain ⟨hw, hr⟩ := List.forall_mem_cons.1 h
    rw [List.flatMap_cons, List.flatten_cons, List.forall_mem_cons, ← ih hr]
    exact ⟨fun h => List.append_inj h (length_capitalized hw), fun ⟨h₁, h₂⟩ => by rw [h₁, h₂]⟩

/-- A name of ASCII is settled in camel case if what runs together in it is in camel case as one word. -/
theorem camel_camel_iff {name : List Char} (ascii : ∀ c ∈ name, IsAscii c) :
    camel (camel name) = camel name ↔ ∀ run ∈ camelRuns name, InCamelCase run.flatten := by
  have capital : ∀ v ∈ (words name).map capitalized, Capitalized v :=
    List.forall_mem_map.2 fun w hw => capitalized_capitalized (fun empty => nil_notMem_words name (empty ▸ hw))
      fun c hc => ⟨ascii c (mem_of_mem_words hw hc), isAlphanumeric_of_mem_words hw hc⟩
  have member : ∀ run ∈ camelRuns name, ∀ v ∈ run, Capitalized v := by
    intro run hrun v hv
    refine capital v ?_
    rw [← List.flatten_splitBy runsOn ((words name).map capitalized)]
    exact List.mem_flatten.2 ⟨run, hrun, hv⟩
  have letters : ∀ run ∈ camelRuns name, ∀ c ∈ run.flatten, IsAscii c ∧ isAlphanumeric c = true := by
    intro run hrun c hc
    obtain ⟨v, hv, hc⟩ := List.mem_flatten.1 hc
    exact ⟨(member run hrun v hv).ascii c hc, (member run hrun v hv).letter hc⟩
  have nonempty : ∀ run ∈ camelRuns name, run.flatten ≠ [] := by
    intro run hrun empty
    obtain ⟨v, rest, rfl⟩ := List.exists_cons_of_ne_nil (List.ne_nil_of_mem_splitBy hrun)
    exact (member _ hrun v List.mem_cons_self).ne (List.append_eq_nil_iff.1 empty).1
  have together : camel name = ((camelRuns name).map List.flatten).flatten := by
    rw [← List.flatten_flatten, camelRuns, List.flatten_splitBy]
    rfl
  have again : camel (camel name) = ((camelRuns name).map List.flatten).flatMap capitalized := by
    have : camel name = ((words name).map capitalized).flatten := rfl
    rw [this, camel, words_flatten capital, List.flatMap_def]
    rfl
  rw [again, together, flatMap_capitalized_eq_iff]
  · rw [List.forall_mem_map]
    exact forall₂_congr fun run hrun => capitalized_eq_self_iff (nonempty run hrun)
      (fun c hc => (letters run hrun c hc).1) (fun c hc => (letters run hrun c hc).2) (large_flatten (member run hrun))
  · exact List.forall_mem_map.2 fun run hrun c hc => (letters run hrun c hc).1

end LineRules.Naming

namespace LineRules.NamingPolicy

open Text Naming

theorem normalize_camel_eq_iff {name other : String} :
    camel.normalize name = other ↔ Naming.camel name.toList = other.toList := by
  rw [normalize, ← String.toList_inj, String.toList_ofList]

/-- A name of ASCII is settled once it is in camel case, and its normal form is accepted where the name was
refused, exactly if those of its words that run together are in camel case as one word. -/
theorem camel_settles_iff (name : String) (ascii : ∀ c ∈ name.toList, IsAscii c) :
    (camel.normalize (camel.normalize name) = camel.normalize name ↔
      ∀ run ∈ camelRuns name.toList, InCamelCase run.flatten) ∧
    ∀ {τ : Type} (c : Composer τ) (what : Named) (pos : Pos) (d : Draft τ) (suggestion : String),
      c.normalize = camel.normalize → camel.normalize name ≠ "" →
      (c.checkName what name pos d).1 = .error ⟨c.rule, pos, .invalidIdentifier what name suggestion⟩ →
      ((c.checkName what suggestion pos d).1 = .ok () ↔
        ∀ run ∈ camelRuns name.toList, InCamelCase run.flatten) := by
  have settled : camel.normalize (camel.normalize name) = camel.normalize name ↔
      ∀ run ∈ camelRuns name.toList, InCamelCase run.flatten := by
    rw [normalize_camel_eq_iff, normalize, String.toList_ofList, camel_camel_iff ascii]
  exact ⟨settled, fun c what pos d suggestion policy ne refused =>
    (Composer.checkName_suggestion_ok_iff policy refused ne).trans settled⟩

/-- `HTTPStatus2` is settled, with a digit that runs on; `HTTPID` is not, for it is no initialism. -/
theorem camel_settles_iff_initialisms :
    (∀ c ∈ "http_status_2".toList, IsAscii c) ∧ (∀ c ∈ "http_id".toList, IsAscii c) ∧
      camel.normalize (camel.normalize "http_status_2") = camel.normalize "http_status_2" ∧
      camel.normalize (camel.normalize "http_id") ≠ camel.normalize "http_id" := by
  have settled : ∀ c ∈ "http_status_2".toList, IsAscii c := ascii_of_all (by decide)
  have unsettled : ∀ c ∈ "http_id".toList, IsAscii c := ascii_of_all (by decide)
  exact ⟨settled, unsettled, (camel_settles_iff _ settled).1.2 (by decide +kernel),
    mt (camel_settles_iff _ unsettled).1.1 (by decide +kernel)⟩

/-- Words of one letter, initialisms and digits: what runs together is capitalized as one word the next time. -/
theorem camel_unsettled :
    camel.normalize "A.b" = "AB" ∧ camel.normalize "AB" = "Ab" ∧
      camel.normalize "http_id" = "HTTPID" ∧ camel.normalize "HTTPID" = "Httpid" ∧
      camel.normalize "utf_8" = "Utf8" ∧ camel.normalize "Utf8" = "UTF8" := by
  decide +kernel

end LineRules.NamingPolicy
