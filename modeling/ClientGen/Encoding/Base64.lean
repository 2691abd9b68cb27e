/-!
# Base 64

Four digits for every three bytes, with `=` to fill the last group. Line ends between the digits
are skipped. The unused low bits of the last digit are not looked at.
-/
namespace ClientGen.Encoding.Base64

/-- The digits in increasing order. -/
def alphabet : List Char :=
  "ABCDEFGHIJKLMNOPQRSTUVWXYZabcdefghijklmnopqrstuvwxyz0123456789+/".toList

/-- The offset of the byte at which a text stops being base 64. -/
structure Fault where
  offset : Nat
deriving DecidableEq, Repr

/-- The digit that a byte is the code of. -/
def digit? (byte : UInt8) : Option Nat := alphabet.findIdx? (·.toNat == byte.toNat)

def isLineEnd (byte : UInt8) : Bool := byte == 10 || byte == 13

/-- Bytes of a text with their offsets. -/
abbrev Located := List (Nat × UInt8)

/-- The bytes of a group: two digits make one byte, three make two, four make three. -/
def groupBytes : List Nat → List UInt8
  | [a, b] => [UInt8.ofNat (a * 4 + b / 16)]
  | [a, b, c] => [UInt8.ofNat (a * 4 + b / 16), UInt8.ofNat (b % 16 * 16 + c / 4)]
  | [a, b, c, d] =>
    [UInt8.ofNat (a * 4 + b / 16), UInt8.ofNat (b % 16 * 16 + c / 4), UInt8.ofNat (c % 4 * 64 + d)]
  | _ => []

def filler : UInt8 := 61

/-- Reads what follows a filler at an offset, given the digits of its group: a second filler if the
group has two digits, and then nothing. A wrong second filler is reported at the byte before. -/
def readFiller (size offset : Nat) (digits : List Nat) (rest : Located) :
    Except Fault (List UInt8) := do
  if digits.length < 2 then throw ⟨offset⟩
  let rest ←
    if digits.length = 2 then
      match rest with
      | [] => throw ⟨size⟩
      | (i, byte) :: rest => if byte == filler then pure rest else throw ⟨i - 1⟩
    else pure rest
  match rest with
  | [] => return groupBytes digits
  | (i, _) :: _ => throw ⟨i⟩

/-- Reads groups of digits, given the digits of the group that has begun. A text that ends inside
a group is faulty as many bytes before its end as the group has digits. -/
def readGroups (size : Nat) (digits : List Nat) : Located → Except Fault (List UInt8)
  | [] => if digits.isEmpty then .ok [] else .error ⟨size - digits.length⟩
  | (i, byte) :: rest =>
    match digit? byte with
    | some d =>
      if digits.length = 3 then
        (readGroups size [] rest).map (groupBytes (digits ++ [d]) ++ ·)
      else readGroups size (digits ++ [d]) rest
    | none => if byte == filler then readFiller size i digits rest else .error ⟨i⟩

def locate (offset : Nat) : List UInt8 → Located
  | [] => []
  | byte :: rest => (offset, byte) :: locate (offset + 1) rest

def decode (text : String) : Except Fault (List UInt8) :=
  let bytes := text.toUTF8.toList
  readGroups bytes.length [] ((locate 0 bytes).filter fun e => !isLineEnd e.2)

def digitChar (n : Nat) : Char := alphabet.getD n '='

/-- The digits of some bytes. -/
def encodeBytes : List UInt8 → List Char
  | [] => []
  | [a] => [digitChar (a.toNat / 4), digitChar (a.toNat % 4 * 16), '=', '=']
  | [a, b] =>
    [digitChar (a.toNat / 4), digitChar (a.toNat % 4 * 16 + b.toNat / 16),
      digitChar (b.toNat % 16 * 4), '=']
  | a :: b :: c :: rest =>
    digitChar (a.toNat / 4) :: digitChar (a.toNat % 4 * 16 + b.toNat / 16)
      :: digitChar (b.toNat % 16 * 4 + c.toNat / 64) :: digitChar (c.toNat % 64)
      :: encodeBytes rest

def encode (bytes : List UInt8) : String := String.ofList (encodeBytes bytes)

def Fault.message (fault : Fault) : String :=
  "illegal base64 data at input byte " ++ fault.offset.repr

end ClientGen.Encoding.Base64
