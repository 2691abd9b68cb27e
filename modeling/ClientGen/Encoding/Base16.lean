import ClientGen.Text.Digits
import ClientGen.Text.Quoted
/-!
# Base 16

Two hexadecimal digits for every byte. Reading takes digits of both cases and works on the bytes
of the text, so that a fault names the first byte that is not a digit.
-/
namespace ClientGen.Encoding.Base16

inductive Fault where
  | invalidByte (byte : UInt8)
  | oddLength
deriving DecidableEq, Repr

/-- The digit that a byte is the code of. -/
def digit? (byte : UInt8) : Option Nat := Text.hexValue? (Char.ofNat byte.toNat)

/-- Reads pairs of digits. A byte that is not a digit is reported before an odd length. -/
def decodeBytes : List UInt8 → Except Fault (List UInt8)
  | [] => .ok []
  | [a] =>
    match digit? a with
    | none => .error (.invalidByte a)
    | some _ => .error .oddLength
  | a :: b :: rest =>
    match digit? a, digit? b with
    | none, _ => .error (.invalidByte a)
    | some _, none => .error (.invalidByte b)
    | some high, some low =>
      (decodeBytes rest).map (UInt8.ofNat (16 * high + low) :: ·)

def decode (text : String) : Except Fault (List UInt8) := decodeBytes text.toUTF8.toList

/-- The digits of some bytes, in lower case. -/
def encode (bytes : List UInt8) : String :=
  String.ofList (bytes.flatMap fun b => [Text.hexDigit (b.toNat / 16), Text.hexDigit (b.toNat % 16)])

/-- The code point of a byte, followed by the character if it can be printed. -/
def codePointText (byte : UInt8) : String :=
  let n := byte.toNat
  let code := "U+00" ++ String.ofList [Text.hexDigitUpper (n / 16), Text.hexDigitUpper (n % 16)]
  let c := Char.ofNat n
  if Text.isPrintable c then code ++ " '" ++ c.toString ++ "'" else code

def Fault.message : Fault → String
  | .invalidByte byte => "encoding/hex: invalid byte: " ++ codePointText byte
  | .oddLength => "encoding/hex: odd length hex string"

end ClientGen.Encoding.Base16
