/-
Numbers as text: decimal digits for counts and positions, lower-case hexadecimal digits for code
points, neither of them padded; and the values of digits that have been read.
-/
namespace LineRules.Text

/-! ## Writing -/

/-- The decimal digits of a number. -/
def decimal (n : Nat) : String := String.ofList (Nat.toDigits 10 n)

/-- The hexadecimal digits of a number, in lower case. -/
def hexadecimal (n : Nat) : List Char := Nat.toDigits 16 n

/-! ## Reading -/

/-- A decimal digit of ASCII. -/
def isDigit (c : Char) : Bool := '0' ≤ c && c ≤ '9'

/-- The value of a digit in any base up to sixteen. -/
def digitValue? (c : Char) : Option Nat :=
  if '0' ≤ c && c ≤ '9' then some (c.toNat - '0'.toNat)
  else if 'a' ≤ c && c ≤ 'f' then some (c.toNat - 'a'.toNat + 10)
  else if 'A' ≤ c && c ≤ 'F' then some (c.toNat - 'A'.toNat + 10)
  else none

/-- The number that digits write in a base. What is not a digit counts as zero. -/
def valueOf (base : Nat) (ds : List Char) : Nat :=
  ds.foldl (fun n c => base * n + (digitValue? c).getD 0) 0

/-! ## Double precision -/

/-- The number of 53 leading bits that is nearest to `n`, and of two as near the one whose last bit
is zero. -/
def rounded (n : Nat) : Nat :=
  let unit := Nat.pow 2 (n.log2 + 1 - 53)
  let low := n / unit
  let rest := 2 * (n % unit)
  if unit < rest ∨ (unit = rest ∧ low % 2 = 1) then (low + 1) * unit else low * unit

/-- The least number past the finite binary numbers of 64 bits: numbers from here on are rounded to
infinity. -/
def firstInfinite : Nat := Nat.pow 2 1024 - Nat.pow 2 970

/-- The number written by the digits `ds`, times `10 ^ power`, divided by `10 ^ fraction`, is
rounded to infinity. The powers are formed only if the count of digits leaves it open. -/
def isInfinite (ds : List Char) (power fraction : Nat) : Bool :=
  let mantissa := valueOf 10 ds
  if mantissa = 0 ∨ ds.length + power ≤ 300 + fraction then false
  else if 400 + fraction ≤ power then true
  else firstInfinite * Nat.pow 10 fraction ≤ mantissa * Nat.pow 10 power

end LineRules.Text
