/-
Reading a regular expression. Parentheses, brackets and the flag for verbose expressions nest, so
the readers of sets and of expressions call themselves. Each call comes after a character, and the
number of characters bounds how often that happens. A count in braces after an expression is not
read: it is no part of this dialect.
-/
import LineRules.Regex.Basic
import LineRules.Scan
import LineRules.Text.Alphanumeric
import LineRules.Text.Decimal
import LineRules.Text.WhiteSpace

namespace LineRules.Regex

open Scan

/-! ## Blanks -/

/-- The text after white space and comments, from inside a comment or from outside. A comment goes
from a hash sign to the end of its line. -/
def pastBlanks : Bool → List Char → List Char
  | _, [] => []
  | true, c :: rest => pastBlanks (c != '\n') rest
  | false, c :: rest =>
    if Text.isWhiteSpace c then pastBlanks false rest
    else if c = '#' then pastBlanks true rest
    else c :: rest

/-- Passes over white space and comments in a verbose expression. -/
def blanks (verbose : Bool) : Scan Unit :=
  modify fun cs => if verbose then pastBlanks false cs else cs

/-! ## Characters and escapes -/

/-- Hexadecimal digits, with blanks around each of them in a verbose expression. -/
def hexDigits (verbose : Bool) : Nat → Scan (List Char)
  | 0 => do
    blanks verbose
    return []
  | n + 1 => do
    blanks verbose
    let c ← one fun c => (Text.digitValue? c).isSome
    return c :: (← hexDigits verbose n)

/-- The character with the code point that `count` hexadecimal digits write. -/
def codePoint (verbose : Bool) (count : Nat) : Scan Char := do
  let n := Text.valueOf 16 (← hexDigits verbose count)
  if h : n.isValidChar then return Char.ofNatAux n h else failure

/-- A backslash and what belongs to it. It gives a meaning to some letters and angle brackets, and
takes it from any other sign of ASCII. -/
def escape (verbose : Bool) : Scan Atom := do
  symbol '\\'
  match ← any with
  | 'x' => return .literal ⟨← codePoint verbose 2, true⟩
  | 'u' => return .literal ⟨← codePoint verbose 4, false⟩
  | 'U' => return .literal ⟨← codePoint verbose 8, false⟩
  | 'a' => return .literal ⟨'\x07', false⟩
  | 'f' => return .literal ⟨'\x0c', false⟩
  | 'n' => return .literal ⟨'\n', false⟩
  | 'r' => return .literal ⟨'\r', false⟩
  | 't' => return .literal ⟨'\t', false⟩
  | 'v' => return .literal ⟨'\x0b', false⟩
  | 'd' | 's' | 'w' => return .shorthand false
  | 'D' | 'S' | 'W' => return .shorthand true
  | 'A' | 'z' => return .anchor
  | 'b' | 'B' | '<' | '>' => return .wordEdge
  | c => if c.toNat < 0x80 && !c.isAlphanum then return .literal ⟨c, false⟩ else failure

/-- An escape, or a character that stands for itself. -/
def plain (verbose : Bool) : Scan Atom := do
  match ← get with
  | '\\' :: _ => escape verbose
  | _ => return .literal ⟨← any, false⟩

/-- What stands outside of brackets for one place or one character. -/
def single (verbose : Bool) : Scan Atom := do
  match ← get with
  | '.' :: rest => set rest; return .dot
  | '^' :: rest => set rest; return .anchor
  | '$' :: rest => set rest; return .anchor
  | _ => plain verbose

/-! ## Sets -/

/-- The character that decides whether a dash stands between the ends of a range, from the text
after the dash. In a verbose expression it comes after white space and one hash sign. -/
def afterDash? (verbose : Bool) (rest : List Char) : Option Char :=
  if verbose then
    let past :=
      match rest.dropWhile Text.isWhiteSpace with
      | '#' :: rest => rest.dropWhile Text.isWhiteSpace
      | rest => rest
    past.head?.or rest.head?
  else rest.head?

/-- A dash joins two ends of a range, unless a bracket or another dash follows. -/
def isRangeAhead (verbose : Bool) : List Char → Bool
  | '-' :: rest => afterDash? verbose rest != some ']' && afterDash? verbose rest != some '-'
  | _ => false

/-- A range that does not go downwards, a character, or a shorthand. -/
def setItem (verbose : Bool) : Scan CharSet := do
  let first ← plain verbose
  blanks verbose
  if isRangeAhead verbose (← get) then
    symbol '-'
    blanks verbose
    match first, ← plain verbose with
    | .literal low, .literal high =>
      if low.char ≤ high.char then return .range low high else failure
    | _, _ => failure
  else
    match first with
    | .literal l => return .literal l
    | .shorthand negated => return .shorthand negated
    | _ => failure

/-- The names of the classes of ASCII characters. -/
def classNames : List String :=
  ["alnum", "alpha", "ascii", "blank", "cntrl", "digit", "graph", "lower", "print", "punct",
   "space", "upper", "word", "xdigit"]

/-- A named class, after its opening bracket. -/
def namedClass : Scan CharSet := do
  symbol ':'
  let negated ← (do symbol '^'; return true) <|> pure false
  let name ← run (· != ':')
  word [':', ']']
  if classNames.contains (String.ofList name) then return .named negated else failure

/-- The beginning of a set, after its opening bracket: whether the set is negated, and the signs
that stand for themselves only here. These are dashes, or else one closing bracket. -/
def setOpening (verbose : Bool) : Scan (Bool × List CharSet) := do
  blanks verbose
  let negated ← (do symbol '^'; blanks verbose; return true) <|> pure false
  let dashes ← many (do symbol '-'; blanks verbose)
  if dashes.isEmpty then
    (do
      symbol ']'
      blanks verbose
      return (negated, [.literal ⟨']', false⟩])) <|> pure (negated, [])
  else return (negated, dashes.map fun _ => .literal ⟨'-', false⟩)

/-- The items so far, latest first, combined with the set on their left. -/
def closeSet (left : Option CharSet) (items : List CharSet) : CharSet :=
  match left with
  | some left => .combined left (.ofItems items.reverse)
  | none => .ofItems items.reverse

/-- The rest of a set up to its closing bracket, after the items so far. -/
def setRest (verbose : Bool) : Nat → Option CharSet → List CharSet → Scan CharSet
  | 0, _, _ => failure
  | n + 1, left, items => do
    blanks verbose
    match ← get with
    | ']' :: rest =>
      set rest
      return closeSet left items
    | '&' :: '&' :: rest =>
      set rest
      setRest verbose n (some (closeSet left items)) []
    | '-' :: '-' :: rest =>
      set rest
      setRest verbose n (some (closeSet left items)) []
    | '~' :: '~' :: rest =>
      set rest
      setRest verbose n (some (closeSet left items)) []
    | '[' :: rest =>
      match namedClass rest with
      | some (item, rest) =>
        set rest
        setRest verbose n left (item :: items)
      | none =>
        set rest
        let (negated, first) ← setOpening verbose
        let inner ← setRest verbose n none first
        setRest verbose n left (.bracketed negated inner :: items)
    | _ =>
      let item ← setItem verbose
      setRest verbose n left (item :: items)

/-! ## Groups -/

/-- A character of a group's name. The first is a letter or an underscore. -/
def isNameChar (c : Char) : Bool :=
  c == '_' || c == '.' || c == '[' || c == ']' || Text.isAlphanumeric c

/-- The name of a group, up to the angle bracket that closes it. -/
def groupName : Scan (List Char) := do
  let first ← one fun c => c == '_' || Text.isAlphabetic c
  let rest ← run isNameChar
  symbol '>'
  return first :: rest

/-- Letters of flags, those after a dash to be switched off. No letter comes twice. -/
def switches : Scan Switches := do
  let isLetter := fun c => (Flag.ofLetter? c).isSome
  let on ← run isLetter
  let off ← (do symbol '-'; run1 isLetter) <|> pure []
  if (on ++ off).Nodup then return ⟨on.filterMap Flag.ofLetter?, off.filterMap Flag.ofLetter?⟩
  else failure

/-- What an opening parenthesis begins. -/
inductive Opening
  /-- Flags, and the parenthesis is closed again. -/
  | switch (s : Switches)
  | group (name : Option (List Char)) (s : Switches)
  deriving Repr, DecidableEq

/-- What an opening parenthesis begins, from the signs after it. -/
def opening (verbose : Bool) : Scan Opening := do
  blanks verbose
  match ← get with
  | '?' :: 'P' :: '<' :: rest =>
    set rest
    return .group (some (← groupName)) {}
  | '?' :: '<' :: rest =>
    set rest
    return .group (some (← groupName)) {}
  | '?' :: rest =>
    set rest
    let s ← switches
    match ← any with
    | ':' => return .group none s
    | ')' => if s = {} then failure else return .switch s
    | _ => failure
  | _ => return .group none {}

/-! ## Expressions -/

/-- Repeats the latest item. There has to be one, and flags cannot be repeated. -/
def repeatLatest : List Regex → Option (List Regex)
  | [] => none
  | .switch _ :: _ => none
  | r :: items => some (.repeated r :: items)

/-- The branches so far and the items of the last one, both latest first, as one expression. -/
def close (branches items : List Regex) : Regex :=
  ofBranches (ofItems items.reverse :: branches).reverse

/-- The rest of an expression up to a closing parenthesis or the end, after the branches and the
items of the last branch so far. -/
def expressionRest : Nat → Bool → List Regex → List Regex → Scan Regex
  | 0, _, _, _ => failure
  | n + 1, verbose, branches, items => do
    blanks verbose
    match ← get with
    | [] => return close branches items
    | ')' :: _ => return close branches items
    | '|' :: rest =>
      set rest
      expressionRest n verbose (ofItems items.reverse :: branches) []
    | '(' :: rest =>
      set rest
      match ← opening verbose with
      | .switch s => expressionRest n (s.apply .verbose verbose) branches (.switch s :: items)
      | .group name s =>
        let inner ← expressionRest n (s.apply .verbose verbose) [] []
        symbol ')'
        expressionRest n verbose branches (.group name s inner :: items)
    | '[' :: rest =>
      set rest
      let (negated, first) ← setOpening verbose
      let inner ← setRest verbose n none first
      expressionRest n verbose branches (.charSet (.bracketed negated inner) :: items)
    | '\x7b' :: _ => failure
    | c :: rest =>
      if c = '*' ∨ c = '+' ∨ c = '?' then
        match repeatLatest items with
        | some items =>
          set rest
          symbol '?' <|> pure ()
          expressionRest n verbose branches items
        | none => failure
      else
        let a ← single verbose
        expressionRest n verbose branches (.atom a :: items)

/-- The regular expression that a text writes. -/
def ofChars? (cs : List Char) : Option Regex :=
  match expressionRest (cs.length + 1) false [] [] cs with
  | some (r, []) => some r
  | _ => none

end LineRules.Regex
