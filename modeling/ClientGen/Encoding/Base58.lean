import ClientGen.Text.Quoted
/-!
# Base 58

The positional system with fifty-eight digits in which addresses are written. A leading zero byte
is written as one leading digit `1`.
-/
namespace ClientGen.Encoding.Base58

/-- The digits in increasing order. -/
def alphabet : List Char :=
  "123456789ABCDEFGHJKLMNPQRSTUVWXYZabcdefghijkmnopqrstuvwxyz".toList

inductive Fault where
  | empty
  | notAscii
  | invalidDigit (c : Char)
deriving DecidableEq, Repr

def digit? (c : Char) : Option Nat := alphabet.findIdx? (· == c)

/-- Reads digits, most significant first. -/
def readDigits : List Char → Except Fault (List Nat)
  | [] => .ok []
  | c :: rest =>
    if 0x7F < c.toNat then .error .notAscii
    else
      match digit? c with
      | none => .error (.invalidDigit c)
      | some d => (readDigits rest).map (d :: ·)

/-- The number of a list of digits, most significant first. -/
def valueOf (base : Nat) (digits : List Nat) : Nat := digits.foldl (fun n d => base * n + d) 0

/-- The digits of a number, least significant first, without leading zeros. The fuel bounds their
count. -/
def digitsOf (base : Nat) : (fuel : Nat) → Nat → List Nat
  | 0, _ => []
  | fuel + 1, n => if n = 0 then [] else n % base :: digitsOf base fuel (n / base)

/-- The bytes that a text denotes; no digit is worth more than one byte. -/
def decode (text : String) : Except Fault (List UInt8) :=
  match text.toList with
  | [] => .error .empty
  | s => do
    let digits ← readDigits s
    let zeros := (digits.takeWhile (· == 0)).length
    let bytes := (digitsOf 256 digits.length (valueOf 58 digits)).reverse
    return List.replicate zeros 0 ++ bytes.map UInt8.ofNat

/-- The digits of some bytes; a byte takes less than two digits. -/
def encode (bytes : List UInt8) : String :=
  let values := bytes.map (·.toNat)
  let zeros := (values.takeWhile (· == 0)).length
  let digits := (digitsOf 58 (2 * values.length) (valueOf 256 values)).reverse
  String.ofList (List.replicate zeros '1' ++ digits.map fun d => alphabet.getD d '1')

def Fault.message : Fault → String
  | .empty => "zero length string"
  | .notAscii => "high-bit set on invalid digit"
  | .invalidDigit c => "invalid base58 digit (" ++ Text.displayedSingle c ++ ")"

end ClientGen.Encoding.Base58
