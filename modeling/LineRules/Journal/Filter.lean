/-
Which entries of the journal are shown. A filter is a list of directives, separated by commas. A
directive is a level, or it has some of these parts, in this order:

- the beginning of the topics that it is about;
- in brackets, the name of a span and, in braces, the name of a particular that an entry must have,
  possibly with an equals sign and a pattern for its value;
- an equals sign and the level up to which entries are shown. Without a level all are shown.

Of the directives that hold for an entry the most specific decides. The journal has no spans and
hides no values, so a directive that names a span or a value holds for no entry.
-/
import LineRules.Journal
import LineRules.Journal.Pattern
import LineRules.Text.Alphanumeric
import LineRules.Text.Bytes
import LineRules.Text.WhiteSpace

namespace LineRules

/-- The topic of an entry. -/
def Event.topic : Event → String
  | settings .. => "lde"
  | failed .. => "lde_core::session"
  | finished .. => "lde_core::session"
  | _ => "lde_core::compose"

namespace Journal

/-! ## Levels -/

/-- A whole number of 64 bits, possibly after a plus sign. -/
def number? (cs : List Char) : Option Nat :=
  let ds :=
    match cs with
    | '+' :: rest => rest
    | _ => cs
  if ds.isEmpty || !ds.all Text.isDigit || UInt64.size ≤ Text.valueOf 10 ds then none
  else some (Text.valueOf 10 ds)

/-- The rank that a level stands for. Levels are numbered, or named in any mixture of cases. -/
def rankOf? (level : List Char) : Option Nat :=
  match number? level with
  | some n => if n ≤ 5 then some n else none
  | none =>
    [("off", 0), ("error", 1), ("warn", 2), ("info", 3), ("debug", 4), ("trace", 5)].lookup
      (String.ofList (level.map Char.toLower))

/-! ## Directives -/

/-- A directive. -/
structure Directive where
  /-- How the topics begin that the directive is about. -/
  topic : Option (List Char) := none
  /-- The name of a particular that an entry must have. -/
  particular : Option String := none
  /-- A span or a value is named, which no entry has. -/
  narrow : Bool := false
  /-- The rank up to which entries are shown. -/
  rank : Nat := 5
  deriving Repr, DecidableEq, Inhabited

/-- The part of a directive that is being read, with the byte at which it begins. -/
inductive Part
  | start
  | topic (first : Nat)
  | span (first : Nat)
  | particular (first : Nat)
  | afterBrace
  | afterBracket
  | level (first : Nat)
  deriving Repr, DecidableEq

namespace Directive

/-- A topic or a level begins with a letter, a digit, or one of three signs. -/
def isFirstChar (c : Char) : Bool := Text.isAlphanumeric c || c == '_' || c == ':' || c == '-'

/-- Adds a particular, with its value if there is an equals sign. -/
def addParticular (d : Directive) (text : List Char) : Option Directive :=
  if text.isEmpty then none
  else
    let d := { d with particular := some (String.ofList (text.takeWhile (· != '='))) }
    match text.dropWhile (· != '=') with
    | [] => some d
    | _ :: value =>
      if Pattern.isPattern (value.takeWhile (· != '=')) then some { d with narrow := true }
      else none

/-- Reads the character `c` at byte `offset`. A part that ends there is cut out of `piece`. -/
def step (piece : List Char) (offset : Nat) (c : Char) :
    Part → Directive → Option (Part × Directive)
  | .start, d =>
    if c = '[' then some (.span (offset + 1), d)
    else if isFirstChar c then some (.topic offset, d)
    else none
  | .topic first, d =>
    let ended := { d with topic := some (Text.slice first offset piece) }
    if c = '=' then some (.level (offset + 1), ended)
    else if c = '[' then some (.span (offset + 1), ended)
    else some (.topic first, d)
  | .span first, d =>
    if c = ']' then some (.afterBracket, { d with narrow := true })
    else if c = '\x7b' then some (.particular (offset + 1), { d with narrow := first < offset })
    else some (.span first, d)
  | .particular first, d =>
    if c = '\x7d' then (d.addParticular (Text.slice first offset piece)).map (.afterBrace, ·)
    else some (.particular first, d)
  | .afterBrace, d => if c = ']' then some (.afterBracket, d) else none
  | .afterBracket, d => if c = '=' then some (.level (offset + 1), d) else none
  | .level first, d => some (.level first, d)

/-- Reads the characters from byte `offset` on. -/
def scan (piece : List Char) (offset : Nat) (p : Part) (d : Directive) :
    List Char → Option (Part × Directive)
  | [] => some (p, d)
  | c :: rest =>
    match step piece offset c p d with
    | some (p, d) => scan piece (offset + c.utf8Size) p d rest
    | none => none

/-- The directive, once its text has ended. -/
def finish (piece : List Char) (d : Directive) : Part → Option Directive
  | .topic first =>
    let text := Text.slice first (Text.byteLength piece) piece
    match rankOf? text with
    | some rank => some { d with rank := rank }
    | none => some { d with topic := some text }
  | .level first =>
    let text := Text.slice first (Text.byteLength piece) piece
    if text.isEmpty then some d else (rankOf? text).map fun rank => { d with rank := rank }
  | .afterBracket => some d
  | _ => none

/-- The directive that a text describes. White space at the ends of the text is passed over when the
signs between the parts are looked for, yet it belongs to the text out of which the parts are cut,
by places that are counted without it. -/
def ofText? (piece : List Char) : Option Directive :=
  match scan piece 0 .start {} (Text.trimmed piece) with
  | some (p, d) => finish piece d p
  | none => none

/-- The directive is about an entry. -/
def holds (d : Directive) (e : Event) : Bool :=
  !d.narrow && d.topic.all (·.isPrefixOf e.topic.toList) &&
    d.particular.all fun name => name == "message" || e.particulars.any (·.1 == name)

/-- How specific the topic is: no topic is least, and of two the longer is more. -/
def topicWeight (d : Directive) : Nat := (d.topic.map (·.length + 1)).getD 0

/-- At least as specific as another directive about the same entry: first by topic, then by whether
a particular is named, then by the names of the particulars in the order of texts. -/
def atLeast (d other : Directive) : Bool :=
  if d.topicWeight = other.topicWeight then
    match other.particular, d.particular with
    | none, _ => true
    | some _, none => false
    | some a, some b => !(b < a)
  else other.topicWeight < d.topicWeight

end Directive

/-! ## Filters -/

/-- Directives in the order in which they are given. -/
abbrev Filter := List Directive

/-- The pieces of a text between commas. -/
def pieces : List Char → List (List Char)
  | [] => [[]]
  | c :: rest =>
    if c = ',' then [] :: pieces rest
    else
      match pieces rest with
      | [] => [[c]]
      | piece :: others => (c :: piece) :: others

namespace Filter

/-- The filter that shows entries up to a level, whatever their topic. -/
def ofLevel (level : Level) : Filter := [{ rank := level.rank }]

/-- The filter that a text describes. A text without directives shows errors. -/
def ofText? (text : String) : Option Filter := do
  let directives ← ((pieces text.toList).filter (!·.isEmpty)).mapM Directive.ofText?
  return if directives.isEmpty then ofLevel .error else directives

/-- The directive that decides about an entry: the most specific, and of two alike the later. -/
def decisive (f : Filter) (e : Event) : Option Directive :=
  (f.filter (·.holds e)).foldl
    (fun best d =>
      match best with
      | some b => if d.atLeast b then some d else some b
      | none => some d)
    none

/-- The filter shows an entry. -/
def shows (f : Filter) (e : Event) : Bool :=
  match f.decisive e with
  | some d => e.level.rank ≤ d.rank
  | none => false

/-- The lines of the entries that the filter shows. -/
def text (f : Filter) (journal : List Event) : String :=
  (journal.filter f.shows).foldl (fun shown e => shown ++ e.line) ""

end Filter

end Journal

end LineRules
