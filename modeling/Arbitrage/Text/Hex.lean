import Arbitrage.Bytes

/-!
# Hexadecimal text

Bytes are written with two lower-case digits each. Reading accepts both cases and reports, in this
order, an odd number of digits, a wrong length, and the first character that is no digit.
-/

namespace Arbitrage.Hex

def digit (n : Nat) : Char := if n < 10 then Char.ofNat (48 + n) else Char.ofNat (87 + n)

def value? (n : Nat) : Option Nat :=
  if 48 ≤ n ∧ n ≤ 57 then some (n - 48)
  else if 97 ≤ n ∧ n ≤ 102 then some (n - 87)
  else if 65 ≤ n ∧ n ≤ 70 then some (n - 55)
  else none

def isDigit (c : Char) : Bool := (value? c.toNat).isSome

/-- Two digits for each byte, the higher one first and letters in lower case. -/
def encode (bytes : Bytes) : List Char :=
  bytes.flatMap fun b => [digit (b.toNat / 16), digit (b.toNat % 16)]

def text (bytes : Bytes) : String := String.ofList ('0' :: 'x' :: encode bytes)

/-- Why a text spells no byte string of the wanted length. -/
inductive Fault
  | oddLength
  | wrongLength
  /-- The character with this code stands where a digit is due. -/
  | notDigit (code : Nat) (position : Nat)
  deriving DecidableEq, Repr

/-- Read pairs of digits, given as character codes, from a position on. -/
def decodeFrom (position : Nat) : List Nat → Except Fault Bytes
  | [] => .ok []
  | [_] => .error .oddLength
  | high :: low :: rest =>
    match value? high, value? low with
    | none, _ => .error (.notDigit high position)
    | some _, none => .error (.notDigit low (position + 1))
    | some h, some l => (decodeFrom (position + 2) rest).map (UInt8.ofNat (16 * h + l) :: ·)

/-- Drop one leading `0x` or `0X`; a second mark is left to be refused. -/
def dropMark (codes : List Nat) : List Nat :=
  match codes with
  | 48 :: mark :: rest => if mark = 120 ∨ mark = 88 then rest else codes
  | _ => codes

/-- Read bytes from character codes, of which an even number is due. -/
def decodePairs (codes : List Nat) : Except Fault Bytes :=
  if codes.length % 2 = 1 then .error .oddLength else decodeFrom 0 codes

/-- Read any number of bytes from character codes; one leading `0x` or `0X` is allowed. -/
def decodeAny (codes : List Nat) : Except Fault Bytes := decodePairs (dropMark codes)

/-- Read exactly `width` bytes from character codes; one leading `0x` or `0X` is allowed. -/
def decode (width : Nat) (codes : List Nat) : Except Fault Bytes :=
  let codes := dropMark codes
  if codes.length % 2 = 1 then .error .oddLength
  else if codes.length ≠ 2 * width then .error .wrongLength
  else decodeFrom 0 codes

end Arbitrage.Hex
