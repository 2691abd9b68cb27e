import ClientGen.Json.Reader
/-!
# Decimal numbers

A number of a document as a whole coefficient times a power of ten, and its standard text. Whole
numbers and numbers with a point or an exponent are kept apart.
-/
namespace ClientGen.Json

structure Decimal where
  isNegative : Bool
  coefficient : Nat
  exponent : Int
  /-- Whether it is written without a point and without an exponent. -/
  isWhole : Bool
deriving DecidableEq, Repr

namespace Decimal

def maxExponent : Int := 100000

/-- The value of the exponent of a number, zero if there is none. -/
def exponentOf : List Char → Int
  | _ :: '-' :: digits => -(Text.decimalValue digits : Int)
  | _ :: '+' :: digits => Text.decimalValue digits
  | _ :: digits => Text.decimalValue digits
  | [] => 0

/-- The number that a text denotes. Zero has no sign. -/
def parse (text : String) : Option Decimal := do
  let s := text.toList
  let body := if s.head? == some '-' then s.tail else s
  let (whole, s') ← readWhole body
  let (fraction, s'') ← readFraction s'
  let (exponent, rest) ← readExponent s''
  if !rest.isEmpty then none
  let digits := whole ++ fraction.drop 1
  let coefficient := Text.decimalValue digits
  return ⟨s.head? == some '-' && coefficient != 0, coefficient,
    exponentOf exponent - (fraction.length - 1 : Nat), fraction.isEmpty && exponent.isEmpty⟩

/-- The exponent of the first digit. -/
def leadingExponent (d : Decimal) : Int := d.exponent + (d.coefficient.repr.length - 1 : Nat)

def inBounds (d : Decimal) : Bool :=
  d.exponent.natAbs ≤ maxExponent.natAbs && d.leadingExponent.natAbs ≤ maxExponent.natAbs

/-- Whether a number is written without an exponent: its last digit is not left of the point, and
its first digit is not far to the right of it. A zero may have up to two thousand places. -/
def isPlain (d : Decimal) : Bool :=
  d.exponent ≤ 0 && (-6 ≤ d.leadingExponent || (d.coefficient == 0 && -2000 ≤ d.exponent))

/-- Some digits with the last `places` of them behind a point. -/
def pointed (places : Nat) (digits : List Char) : List Char :=
  if places = 0 then digits
  else
    let digits := List.replicate (places + 1 - digits.length) '0' ++ digits
    digits.take (digits.length - places) ++ '.' :: digits.drop (digits.length - places)

/-- An integer with its sign, also if it is positive. -/
def signed (i : Int) : String := (if 0 ≤ i then "+" else "") ++ Text.decimalText i

/-- The standard text of a number. -/
def text (d : Decimal) : String :=
  let digits := d.coefficient.repr.toList
  let sign := if d.isNegative then "-" else ""
  if d.isPlain then sign ++ String.ofList (pointed d.exponent.natAbs digits)
  else
    sign ++ String.ofList (pointed (digits.length - 1) digits) ++ "E" ++ signed d.leadingExponent

/-- Whether two numbers are equal; a whole number differs from every other number. -/
def same (a b : Decimal) : Bool :=
  let low := min a.exponent b.exponent
  a.isWhole == b.isWhole && a.isNegative == b.isNegative
    && a.coefficient * Nat.pow 10 (a.exponent - low).toNat
      == b.coefficient * Nat.pow 10 (b.exponent - low).toNat

end Decimal

end ClientGen.Json
