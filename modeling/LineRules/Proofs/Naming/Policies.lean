/-
The two naming policies on the same name. They cut it into the same words and differ only in how these are
written, so on ASCII nothing that camel case needs is lost in snake case: the words are found again between the
underscores, in lower case, and a word is capitalized in the same way whatever its case was. Main statement: the
camel form of a name is that of its snake form.
-/
import LineRules.Proofs.Naming.Camel
import LineRules.Proofs.Naming.Snake

namespace LineRules.Naming

open Text

/-! ## Words in lower case -/

/-- The words of a name of ASCII are found again in its snake form, in lower case. -/
theorem words_snake {name : List Char} (ascii : ∀ c ∈ name, IsAscii c) :
    words (snake name) = (words name).map lower :=
  (allSmall_lowered ascii).words_underscored

theorem toLower_forgotten {c : Char} (h : IsAscii c) :
    IsAscii c.toLower ∧ c.toLower.toUpper = c.toUpper ∧ c.toLower.toLower = c.toLower :=
  h.induction (by decide +kernel)

/-- What a word is in capitals does not depend on its case. -/
theorem upper_map_toLower {w : List Char} (h : ∀ c ∈ w, IsAscii c) : upper (w.map Char.toLower) = upper w := by
  rw [upper_ascii h, upper_ascii (List.forall_mem_map.2 fun c hc => (toLower_forgotten (h c hc)).1), List.map_map]
  exact List.map_congr_left fun c hc => (toLower_forgotten (h c hc)).2.1

/-- Nor does what it is with a capital in front. -/
theorem capitalized_lower {w : List Char} (h : ∀ c ∈ w, IsAscii c) : capitalized (lower w) = capitalized w := by
  rw [lower, lowerAfter_ascii h]
  by_cases known : upper w ∈ initialisms
  · rw [capitalized_of_initialism known, capitalized_of_initialism (by rwa [upper_map_toLower h]),
      upper_map_toLower h]
  · cases w with
    | nil => rfl
    | cons c rest =>
      have small : ∀ x ∈ (c :: rest).map Char.toLower, IsAscii x :=
        List.forall_mem_map.2 fun x hx => (toLower_forgotten (h x hx)).1
      have other : upper ((c :: rest).map Char.toLower) ∉ initialisms := by rwa [upper_map_toLower h]
      obtain ⟨hc, hr⟩ := List.forall_mem_cons.1 h
      have tail : (rest.map Char.toLower).map Char.toLower = rest.map Char.toLower := by
        rw [List.map_map]
        exact List.map_congr_left fun x hx => (toLower_forgotten (hr x hx)).2.2
      rw [List.map_cons] at small other ⊢
      rw [capitalized_cons small other, capitalized_cons h known, (toLower_forgotten hc).2.1, tail]

/-- Camel case does not notice whether a name of ASCII was put into snake case first. -/
theorem camel_snake {name : List Char} (ascii : ∀ c ∈ name, IsAscii c) : camel (snake name) = camel name := by
  have same : ∀ w ∈ words name, capitalized (lower w) = capitalized w := fun w hw =>
    capitalized_lower fun c hc => ascii c (mem_of_mem_words hw hc)
  rw [camel, camel, words_snake ascii, List.flatMap_map]
  exact List.flatMap_congr same

end LineRules.Naming

namespace LineRules.NamingPolicy

open Text Naming

/-- A name of ASCII has the words of its snake form, but for their case. So its camel form is that of its snake
form, and names with the same snake form have the same camel form. -/
theorem camel_of_snake (name : String) (ascii : ∀ c ∈ name.toList, IsAscii c) :
    words (snake.normalize name).toList = (words name.toList).map lower ∧
    camel.normalize (snake.normalize name) = camel.normalize name ∧
    ∀ other : String, (∀ c ∈ other.toList, IsAscii c) → snake.normalize other = snake.normalize name →
      camel.normalize other = camel.normalize name := by
  have through : ∀ name : String, (∀ c ∈ name.toList, IsAscii c) →
      camel.normalize (snake.normalize name) = camel.normalize name := by
    intro name ascii
    rw [normalize, normalize, normalize, String.toList_ofList, camel_snake ascii]
  refine ⟨?_, through name ascii, fun other ascii' same => ?_⟩
  · rw [normalize, String.toList_ofList, words_snake ascii]
  · rw [← through other ascii', same, through name ascii]

/-- An acronym run, a digit and a separator, and another spelling of the same words. -/
theorem camel_of_snake_acronym :
    (∀ c ∈ "HTTPServer2-userId".toList, IsAscii c) ∧ (∀ c ∈ "http_server2UserID".toList, IsAscii c) ∧
      snake.normalize "http_server2UserID" = snake.normalize "HTTPServer2-userId" ∧
      camel.normalize (snake.normalize "HTTPServer2-userId") = "HTTPServer2UserID" ∧
      camel.normalize "http_server2UserID" = camel.normalize "HTTPServer2-userId" := by
  have ascii : ∀ c ∈ "HTTPServer2-userId".toList, IsAscii c := ascii_of_all (by decide)
  have ascii' : ∀ c ∈ "http_server2UserID".toList, IsAscii c := ascii_of_all (by decide)
  have same : snake.normalize "http_server2UserID" = snake.normalize "HTTPServer2-userId" := by decide +kernel
  have form : camel.normalize "HTTPServer2-userId" = "HTTPServer2UserID" := by decide +kernel
  obtain ⟨-, through, others⟩ := camel_of_snake "HTTPServer2-userId" ascii
  exact ⟨ascii, ascii', same, through.trans form, others _ ascii' same⟩

end LineRules.NamingPolicy
