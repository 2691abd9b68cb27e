/-!
# Digits

Decimal and hexadecimal digits: reading them, and writing a number with a least number of places.
-/
namespace ClientGen.Text

def hexValue? (c : Char) : Option Nat :=
  if '0' ≤ c ∧ c ≤ '9' then some (c.toNat - 48)
  else if 'a' ≤ c ∧ c ≤ 'f' then some (c.toNat - 87)
  else if 'A' ≤ c ∧ c ≤ 'F' then some (c.toNat - 55)
  else none

/-- The lower-case hexadecimal digit of a number below sixteen. -/
def hexDigit (n : Nat) : Char := if n < 10 then Char.ofNat (48 + n) else Char.ofNat (87 + n)

/-- The upper-case hexadecimal digit of a number below sixteen. -/
def hexDigitUpper (n : Nat) : Char := if n < 10 then Char.ofNat (48 + n) else Char.ofNat (55 + n)

/-- The last `places` hexadecimal digits of a number. -/
def hexPadded : (places : Nat) → Nat → List Char
  | 0, _ => []
  | places + 1, n => hexPadded places (n / 16) ++ [hexDigit (n % 16)]

def isDigit (c : Char) : Bool := '0' ≤ c && c ≤ '9'

def decimalValue (digits : List Char) : Nat :=
  digits.foldl (fun n c => 10 * n + (c.toNat - 48)) 0

def decimalText (i : Int) : String :=
  match i with
  | .ofNat n => n.repr
  | .negSucc n => "-" ++ (n + 1).repr

end ClientGen.Text
