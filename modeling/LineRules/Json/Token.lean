/-
The tokens of a JSON text. Blanks separate tokens. The last token of a text that stops being JSON
inside a token says so, and nothing after it is looked at.
-/
import LineRules.Json.Basic
import LineRules.Text.Bytes
import LineRules.Text.Decimal

namespace LineRules.Json

/-- A token. Strings stand apart from the other values because they also name members. -/
inductive Token
  | openArray
  | closeArray
  | openObject
  | closeObject
  | comma
  | colon
  | text (key : Key)
  | brokenText (b : Break)
  /-- A number or a word, possibly broken. -/
  | scalar (value : Json)
  /-- A character that begins no token. -/
  | stray

/-! ## Characters -/

/-- The four blanks of JSON. -/
def isBlank (c : Char) : Bool := c == ' ' || c == '\t' || c == '\n' || c == '\r'

/-- The number written by hexadecimal digits. -/
def hexValue? (cs : List Char) : Option Nat :=
  if cs.all fun c => (Text.digitValue? c).isSome then some (Text.valueOf 16 cs) else none

/-! ## Words -/

/-- The rest of a word that begins like `word`. It is broken off at the end of the text, and
malformed at the first other character. -/
def readWord (value : Json) : List Char → List Char → Json × List Char
  | [], rest => (value, rest)
  | _ :: _, [] => (.broken (.both .truncated), [])
  | w :: ws, c :: rest =>
    if c = w then readWord value ws rest else (.broken (.both .malformed), [])

/-! ## Numbers -/

/-- The digits at the front of a text, and the rest. -/
def digits (cs : List Char) : List Char × List Char :=
  (cs.takeWhile Text.isDigit, cs.dropWhile Text.isDigit)

/-- What a number lacks when a digit must follow. At the end of the text its value is still
outstanding, while there is nothing to pass over. -/
def missingDigit : List Char → Break
  | [] => ⟨.truncated, .malformed⟩
  | _ :: _ => .both .malformed

/-- Takes up digits after the number `n` as long as the number they write has at most 64 bits. Gives
that number and the digits that are left over. -/
def takeUp (n : Nat) : List Char → Nat × List Char
  | [] => (n, [])
  | d :: ds =>
    let longer := 10 * n + (Text.digitValue? d).getD 0
    if longer < UInt64.size then takeUp longer ds else (n, d :: ds)

/-- The number `n` and a power of ten, each in double precision, have an infinite product. Powers
beyond the largest that is finite count as infinite. -/
def overflows (n : Nat) : Int → Bool
  | .ofNat power =>
    if 308 < power then n ≠ 0
    else Text.firstInfinite ≤ Text.rounded n * Text.rounded (Nat.pow 10 power)
  | .negSucc _ => false

/-- A number that is not whole, or that no whole number of 64 bits can hold. Of its digits only
those count that are taken up; each digit of the whole part that is left over adds one to the
power. -/
def realNumber (whole fraction : List Char) (power : Int) : Json :=
  let (n, surplus) := takeUp 0 whole
  let (n, unread) := takeUp n fraction
  let places : Nat := fraction.length - unread.length
  if overflows n (power + surplus.length - places) then .unfit else .number .fractional

/-- The value of a whole number. Minus zero and numbers of more than 64 bits are fractional. -/
def wholeNumber (minus : Bool) (ds : List Char) : Json :=
  let n := Text.valueOf 10 ds
  if minus then
    if n = 0 ∨ Nat.pow 2 63 < n then realNumber ds [] 0 else .number (.negative n)
  else if n < UInt64.size then .number (.natural (UInt64.ofNat n))
  else realNumber ds [] 0

/-- The exponent of a number, and the rest. -/
def readExponent (cs : List Char) : Except Break (Int × List Char) :=
  let (minus, cs) :=
    match cs with
    | '+' :: rest => (false, rest)
    | '-' :: rest => (true, rest)
    | _ => (false, cs)
  match digits cs with
  | ([], rest) => .error (missingDigit rest)
  | (ds, rest) =>
    let power : Int := Text.valueOf 10 ds
    .ok (if minus then -power else power, rest)

/-- A number after its whole part. -/
def readFraction (minus : Bool) (whole : List Char) (cs : List Char) : Json × List Char :=
  match cs with
  | '.' :: rest =>
    match digits rest with
    | ([], rest) => (.broken (missingDigit rest), [])
    | (fraction, rest) =>
      match rest with
      | 'e' :: rest | 'E' :: rest =>
        match readExponent rest with
        | .ok (power, rest) => (realNumber whole fraction power, rest)
        | .error b => (.broken b, [])
      | _ => (realNumber whole fraction 0, rest)
  | 'e' :: rest | 'E' :: rest =>
    match readExponent rest with
    | .ok (power, rest) => (realNumber whole [] power, rest)
    | .error b => (.broken b, [])
  | _ => (wholeNumber minus whole, cs)

/-- A number after its sign. No digit may follow a leading zero. -/
def readNumber (minus : Bool) (cs : List Char) : Json × List Char :=
  match digits cs with
  | ([], rest) => (.broken (missingDigit rest), [])
  | ('0' :: _ :: _, _) => (.broken (.both .malformed), [])
  | (whole, rest) => readFraction minus whole rest

/-! ## Strings -/

/-- A string as far as it is read: its characters, latest first, and whether an unpaired surrogate
has made it unfit. -/
structure Partial where
  chars : List Char := []
  /-- A leading surrogate that still lacks its partner. -/
  leading : Option Nat := none
  fit : Bool := true

namespace Partial

/-- A surrogate without partner, if there is one, stays alone. -/
def settle (p : Partial) : Partial :=
  if p.leading.isSome then { p with leading := none, fit := false } else p

/-- A character follows. -/
def push (p : Partial) (c : Char) : Partial :=
  let p := p.settle
  { p with chars := c :: p.chars }

/-- A unit of UTF-16 follows, written as an escape. -/
def pushUnit (p : Partial) (n : Nat) : Partial :=
  if 0xDC00 ≤ n && n ≤ 0xDFFF then
    match p.leading with
    | some high =>
      { p with
        chars := Char.ofNat (0x10000 + (high - 0xD800) * 0x400 + (n - 0xDC00)) :: p.chars
        leading := none }
    | none => { p with fit := false }
  else if 0xD800 ≤ n && n ≤ 0xDBFF then
    let p := p.settle
    { p with leading := some n }
  else p.push (Char.ofNat n)

/-- The string, once it is closed. -/
def toKey (p : Partial) : Key :=
  let p := p.settle
  if p.fit then .name (String.ofList p.chars.reverse) else .unfit

/-- A fault in the string. Whoever reads the string finds an unpaired surrogate first. -/
def fail (p : Partial) (f : Fault) : Break := ⟨if p.fit then f else .malformed, f⟩

end Partial

/-- The character an escape of two characters stands for. -/
def escapedChar? (c : Char) : Option Char :=
  if c = '"' then some '"'
  else if c = '\\' then some '\\'
  else if c = '/' then some '/'
  else if c = 'b' then some '\x08'
  else if c = 'f' then some '\x0c'
  else if c = 'n' then some '\n'
  else if c = 'r' then some '\r'
  else if c = 't' then some '\t'
  else none

/-- A string after its opening quote, and the rest of the text. A string that breaks off inside an
escape is truncated, unless four bytes are there that are not its digits. -/
def readString (p : Partial) : List Char → Token × List Char
  | [] => (.brokenText (p.fail .truncated), [])
  | c :: rest =>
    if c = '"' then (.text p.toKey, rest)
    else if c = '\\' then
      match rest with
      | [] => (.brokenText (p.fail .truncated), [])
      | e :: rest =>
        if e = 'u' then
          match rest with
          | a :: b :: c :: d :: rest =>
            match hexValue? [a, b, c, d] with
            | some n => readString (p.pushUnit n) rest
            | none => (.brokenText (p.fail .malformed), [])
          | short =>
            let fault := if Text.byteLength short < 4 then Fault.truncated else .malformed
            (.brokenText (p.fail fault), [])
        else
          match escapedChar? e with
          | some plain => readString (p.push plain) rest
          | none => (.brokenText (p.fail .malformed), [])
    else if c.toNat < 0x20 then (.brokenText (p.fail .malformed), [])
    else readString (p.push c) rest

/-! ## Texts -/

/-- The token at the front of a text that begins with `c`, and the rest. -/
def readToken (c : Char) (rest : List Char) : Token × List Char :=
  if c = '[' then (.openArray, rest)
  else if c = ']' then (.closeArray, rest)
  else if c = '\x7b' then (.openObject, rest)
  else if c = '\x7d' then (.closeObject, rest)
  else if c = ',' then (.comma, rest)
  else if c = ':' then (.colon, rest)
  else if c = '"' then readString {} rest
  else if c = '-' then (readNumber true rest).map .scalar id
  else if Text.isDigit c then (readNumber false (c :: rest)).map .scalar id
  else if c = 't' then (readWord (.bool true) ['r', 'u', 'e'] rest).map .scalar id
  else if c = 'f' then (readWord (.bool false) ['a', 'l', 's', 'e'] rest).map .scalar id
  else if c = 'n' then (readWord .null ['u', 'l', 'l'] rest).map .scalar id
  else (.stray, [])

/-- The tokens of a text, each of which takes at least one of its characters. -/
def tokensWithin : Nat → List Char → List Token
  | 0, _ => []
  | _, [] => []
  | n + 1, c :: rest =>
    if isBlank c then tokensWithin n rest
    else
      let (token, rest) := readToken c rest
      token :: tokensWithin n rest

/-- The tokens of a text. -/
def tokens (cs : List Char) : List Token := tokensWithin cs.length cs

end LineRules.Json
