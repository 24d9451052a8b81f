/-
Patterns for values in a filter: a number, or a regular expression. Only the form of a pattern
matters here, since nothing is ever matched against it. In a filter no pattern holds a closing
brace, so a repetition with a count is never complete.
-/
import LineRules.Regex.Admissible
import LineRules.Text.Decimal

namespace LineRules.Journal.Pattern

/-! ## Numbers -/

/-- What follows the digits of a number: nothing, or an exponent. -/
def isExponent : List Char → Bool
  | [] => true
  | e :: rest =>
    let ds :=
      match rest with
      | '+' :: rest => rest
      | '-' :: rest => rest
      | _ => rest
    (e == 'e' || e == 'E') && !ds.isEmpty && ds.all Text.isDigit

/-- A decimal number without its sign: digits with at most one point, and possibly an exponent. -/
def isDecimal (cs : List Char) : Bool :=
  let whole := cs.takeWhile Text.isDigit
  match cs.dropWhile Text.isDigit with
  | '.' :: rest =>
    !(whole.isEmpty && (rest.takeWhile Text.isDigit).isEmpty)
      && isExponent (rest.dropWhile Text.isDigit)
  | rest => !whole.isEmpty && isExponent rest

/-- A number with or without a sign, infinity, or not a number. -/
def isNumber (cs : List Char) : Bool :=
  let cs :=
    match cs with
    | '+' :: rest => rest
    | '-' :: rest => rest
    | _ => cs
  isDecimal cs
    || ["inf", "infinity", "nan"].contains (String.ofList (cs.map Char.toLower))

/-! ## Patterns -/

/-- A number, or a regular expression that can be used. -/
def isPattern (cs : List Char) : Bool := isNumber cs || Regex.isUsable cs

end LineRules.Journal.Pattern
