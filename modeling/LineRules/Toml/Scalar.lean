/-
The TOML values that hold no other values: strings of four kinds, truth values, numbers, dates and
times.
-/
import LineRules.Toml.Basic
import LineRules.Scan
import LineRules.Text.Decimal

namespace LineRules.Toml

open Scan

/-! ## Blanks -/

/-- The two blanks of TOML. -/
def isBlank (c : Char) : Bool := c == ' ' || c == '\t'

/-- A character that may stand on a line: no control character but the tab. -/
def isLineChar (c : Char) : Bool :=
  c == '\t' || (0x20 ≤ c.toNat && c.toNat ≤ 0x7E) || 0x80 ≤ c.toNat

/-- Blanks, if there are any. -/
def blanks : Scan Unit := do
  let _ ← run isBlank

/-- A line feed, possibly after a carriage return. -/
def newline : Scan Unit := symbol '\n' <|> word ['\r', '\n']

/-- A comment up to the end of the line. -/
def comment : Scan Unit := do
  symbol '#'
  let _ ← run isLineChar

/-- Blanks, line ends and comments. -/
def blankLines : Scan Unit := do
  let _ ← many ((do let _ ← run1 isBlank) <|> newline <|> (do comment; newline))

/-! ## Strings -/

/-- The character with the code point that `count` hexadecimal digits write. -/
def codePoint (count : Nat) : Scan Char := do
  let n := Text.valueOf 16 (← exactly (fun c => (Text.digitValue? c).isSome) count)
  if h : n.isValidChar then return Char.ofNatAux n h else failure

/-- An escape in a string between double quotes. -/
def escape : Scan Char := do
  symbol '\\'
  match ← any with
  | 'b' => return '\x08'
  | 't' => return '\t'
  | 'n' => return '\n'
  | 'f' => return '\x0c'
  | 'r' => return '\r'
  | '"' => return '"'
  | '\\' => return '\\'
  | 'u' => codePoint 4
  | 'U' => codePoint 8
  | _ => failure

/-- A string between double quotes on one line. -/
def basicString : Scan String := do
  symbol '"'
  let cs ← many (one (fun c => isLineChar c && c != '"' && c != '\\') <|> escape)
  symbol '"'
  return String.ofList cs

/-- A string between single quotes on one line, without escapes. -/
def literalString : Scan String := do
  symbol '\''
  let cs ← run fun c => isLineChar c && c != '\''
  symbol '\''
  return String.ofList cs

/-- A piece of a string over several lines that begins with quotes: one or two quotes stand for
themselves, if the string goes on behind them. -/
def innerQuotes (quote : Char) : Scan (List Char) := fun cs =>
  match cs.takeWhile (· == quote), cs.dropWhile (· == quote) with
  | [a], rest => if rest.isEmpty then none else some ([a], rest)
  | [a, b], rest => if rest.isEmpty then none else some ([a, b], rest)
  | _, _ => none

/-- The end of a string over several lines. One or two quotes may stand right before the three that
close it. -/
def closingQuotes (quote : Char) : Scan (List Char) := fun cs =>
  match cs.takeWhile (· == quote) with
  | [_, _, _] => some ([], cs.drop 3)
  | [_, _, _, a] => some ([a], cs.drop 4)
  | [_, _, _, a, b] => some ([a, b], cs.drop 5)
  | _ => none

/-- A backslash at the end of a line, which takes all blanks and line ends behind it away. -/
def lineJoin : Scan (List Char) := do
  symbol '\\'
  blanks
  newline
  let _ ← many ((do let _ ← run1 isBlank) <|> newline)
  return []

/-- A line end in a string over several lines. -/
def innerNewline : Scan (List Char) := do
  newline
  return ['\n']

/-- A string over several lines between three quotes, with the given pieces. A line end right after
the opening quotes does not count. -/
def longString (quote : Char) (piece : Scan (List Char)) : Scan String := do
  word [quote, quote, quote]
  let _ ← optional newline
  let pieces ← many (piece <|> innerNewline <|> innerQuotes quote)
  let last ← closingQuotes quote
  return String.ofList (pieces.flatten ++ last)

/-- A string over several lines between double quotes. -/
def longBasicString : Scan String :=
  longString '"'
    (run1 (fun c => isLineChar c && c != '"' && c != '\\') <|> lineJoin <|>
      (do return [← escape]))

/-- A string over several lines between single quotes, without escapes. -/
def longLiteralString : Scan String :=
  longString '\'' (run1 fun c => isLineChar c && c != '\'')

/-- A string of any kind. -/
def scanString : Scan String :=
  longBasicString <|> basicString <|> longLiteralString <|> literalString

/-! ## Numbers -/

/-- Digits, between two of which an underscore may stand. The underscores are dropped. -/
def digits (p : Char → Bool) : Scan (List Char) := do
  let first ← one p
  let others ← many (one p <|> do symbol '_'; one p)
  return first :: others

/-- A sign, and whether it is a minus. -/
def sign : Scan Bool :=
  (do symbol '+'; return false) <|> (do symbol '-'; return true) <|> pure false

/-- The digits of a whole number. No digit follows a leading zero. -/
def wholeDigits : Scan (List Char) :=
  (do symbol '0'; return ['0']) <|> digits Text.isDigit

/-- A whole number in a base, written after the letter that names the base. -/
def based (letter : Char) (base : Nat) : Scan Toml := do
  symbol '0'
  symbol letter
  let ds ← digits fun c => (Text.digitValue? c).any (· < base)
  if Text.valueOf base ds < Nat.pow 2 63 then return .number else failure

/-- A whole number of 64 bits. -/
def integer : Scan Toml :=
  based 'x' 16 <|> based 'o' 8 <|> based 'b' 2 <|> do
    let minus ← sign
    let n := Text.valueOf 10 (← wholeDigits)
    if n < Nat.pow 2 63 ∨ (minus ∧ n = Nat.pow 2 63) then return .number else failure

/-- An exponent: whether it is negative, and its value. -/
def exponent : Scan (Bool × Nat) := do
  symbol 'e' <|> symbol 'E'
  let minus ← sign
  return (minus, Text.valueOf 10 (← digits Text.isDigit))

/-- A number with a fraction or an exponent, which must not be too large. -/
def decimalFloat : Scan Toml := do
  let minus ← sign
  let whole ← wholeDigits
  let fraction ← optional (do symbol '.'; digits Text.isDigit)
  let power ← optional exponent
  if fraction.isNone ∧ power.isNone then failure
  let fraction := fraction.getD []
  let (minusPower, power) := power.getD (false, 0)
  let large :=
    if minusPower then Text.isInfinite (whole ++ fraction) 0 (fraction.length + power)
    else Text.isInfinite (whole ++ fraction) power fraction.length
  if large ∧ ¬minus then failure
  return .number

/-- Infinity or not a number, by name. -/
def namedFloat : Scan Toml := do
  let _ ← sign
  word ['i', 'n', 'f'] <|> word ['n', 'a', 'n']
  return .number

/-! ## Dates and times -/

/-- A number of `count` digits between `low` and `high`. -/
def bounded (count low high : Nat) : Scan Nat := do
  let n := Text.valueOf 10 (← exactly Text.isDigit count)
  if low ≤ n ∧ n ≤ high then return n else failure

/-- The number of days of a month. -/
def daysOf (year month : Nat) : Nat :=
  if month = 2 then
    if year % 4 = 0 ∧ (year % 100 ≠ 0 ∨ year % 400 = 0) then 29 else 28
  else if month = 4 ∨ month = 6 ∨ month = 9 ∨ month = 11 then 30
  else 31

/-- A date of the calendar. -/
def date : Scan Unit := do
  let year ← bounded 4 0 9999
  symbol '-'
  let month ← bounded 2 1 12
  symbol '-'
  let _ ← bounded 2 1 (daysOf year month)

/-- A time of day. A second 60 is a leap second. -/
def time : Scan Unit := do
  let _ ← bounded 2 0 23
  symbol ':'
  let _ ← bounded 2 0 59
  symbol ':'
  let _ ← bounded 2 0 60
  let _ ← optional (do symbol '.'; let _ ← run1 Text.isDigit)

/-- The distance from Greenwich. -/
def offset : Scan Unit :=
  symbol 'Z' <|> symbol 'z' <|> do
    symbol '+' <|> symbol '-'
    let _ ← bounded 2 0 23
    symbol ':'
    let _ ← bounded 2 0 59

/-- A date, a time, or a date with a time and possibly an offset. -/
def scanMoment : Scan Toml :=
  (do
    date
    let _ ← optional (do
      symbol 'T' <|> symbol 't' <|> symbol ' '
      time
      let _ ← optional offset)
    return .moment) <|>
  (do
    time
    return .moment)

/-! ## Scalars -/

/-- A truth value. -/
def scanBoolean : Scan Toml :=
  (do word ['t', 'r', 'u', 'e']; return .boolean true) <|>
  (do word ['f', 'a', 'l', 's', 'e']; return .boolean false)

/-- A value that holds no other values. -/
def scanScalar : Scan Toml :=
  (do return .string (← scanString)) <|> scanBoolean <|> scanMoment <|> decimalFloat <|>
    namedFloat <|> integer

end LineRules.Toml
