/-
Naming policies. A name is cut into words, and a policy puts the words together again in its own
style: `snake_case`, or `CamelCase` with the usual initialisms in capitals. The names of areas and
fields must already be in the style of the policy; a name that is not is refused, never mended.
-/
import LineRules.Text.Alphanumeric
import LineRules.Text.CaseMapping
import LineRules.Text.Decimal

namespace LineRules.Naming

/-! ## Words -/

/-- A new word begins at the letter `c` right after the letter or digit `previous`: `c` is upper
case, and `previous` is lower case or a digit, or is upper case itself while the character `next`
after `c` is lower case. So `HTTPServer` is `HTTP` and `Server`. -/
def startsWord (previous c : Char) (next : Option Char) : Bool :=
  Text.isUppercase c &&
    (Text.isLowercase previous || Text.isDigit previous ||
      (Text.isUppercase previous && next.any Text.isLowercase))

/-- The letter or digit `c` belongs to the same word as the first character of what follows it. -/
def continues (c : Char) : List Char → Bool
  | [] => false
  | d :: rest => Text.isAlphanumeric d && !startsWord c d rest.head?

/-- The words of a name. Characters that are neither letters nor numbers separate words and belong
to none. -/
def words : List Char → List (List Char)
  | [] => []
  | c :: rest =>
    if !Text.isAlphanumeric c then words rest
    else if continues c rest then
      match words rest with
      | [] => [[c]]
      | word :: others => (c :: word) :: others
    else [c] :: words rest

/-! ## Styles -/

/-- Words that stay in capitals in camel case. -/
def initialisms : List (List Char) :=
  ["ACL", "API", "ASCII", "CPU", "CSS", "DNS", "EOF", "GUID", "HTML", "HTTP", "HTTPS", "ID", "IP",
    "JSON", "LHS", "QPS", "RAM", "RHS", "RPC", "SLA", "SMTP", "SQL", "SSH", "TCP", "TLS", "TTL",
    "UDP", "UI", "UID", "URI", "URL", "UTF8", "UUID", "VM", "XML"].map String.toList

/-- Puts an underscore between two words. -/
def underscored : List (List Char) → List Char
  | [] => []
  | [word] => word
  | word :: rest => word ++ '_' :: underscored rest

/-- The words in lower case, joined by underscores. -/
def snake (name : List Char) : List Char := underscored ((words name).map Text.lower)

/-- A word with a capital in front, or all in capitals if it is an initialism. -/
def capitalized (word : List Char) : List Char :=
  if initialisms.contains (Text.upper word) then Text.upper word
  else
    match word with
    | [] => []
    | c :: rest => Text.upperChar c ++ Text.lower rest

/-- The words with capitals in front, one right after the other. -/
def camel (name : List Char) : List Char := (words name).flatMap capitalized

end LineRules.Naming

namespace LineRules

/-- The styles of names to choose from. -/
inductive NamingPolicy
  | snake
  | camel
  deriving Repr, DecidableEq, Inhabited

namespace NamingPolicy

/-- The policy with a given name. -/
def ofName? (s : String) : Option NamingPolicy :=
  if s = "snake" then some snake else if s = "camel" then some camel else none

/-- What the policy makes of a name. -/
def normalize : NamingPolicy → String → String
  | snake, name => String.ofList (Naming.snake name.toList)
  | camel, name => String.ofList (Naming.camel name.toList)

end NamingPolicy

end LineRules
