import Arbitrage.Natural
import Arbitrage.Text.Quoted

/-!
# On-chain integers

Contracts hold 256-bit words; the trading arithmetic works on unbounded naturals. A natural enters
a word through its big-endian bytes, right-aligned in 32 bytes, and is refused when it needs more.
-/

namespace Arbitrage

/-- An unsigned 256-bit integer, also a transaction hash and an order identifier on the wire. -/
abbrev Word := BitVec 256

/-- Why a value cannot be converted: a text that spells no address, or a number that is too
large. -/
inductive ConversionError
  | badAddress (input : String) (fault : Hex.Fault)
  | tooLarge
  deriving DecidableEq, Repr

def ConversionError.message : ConversionError → String
  | .badAddress input fault =>
    "Failed to parse address from string '" ++ input ++ "': " ++ fault.message
  | .tooLarge => "Value too large to fit in the target integer type"

namespace Word

def width : Nat := 32

def max : Word := BitVec.allOnes 256

/-- The word that a big-endian byte string spells, its low 256 bits if the string is longer than
that. -/
def ofBytes (bytes : Bytes) : Word := BitVec.ofNat 256 bytes.toNat

def toBytes (w : Word) : Bytes := Bytes.ofNat width w.toNat

/-- The word of a natural number, if 32 bytes hold it. -/
def ofNat? (n : Nat) : Except ConversionError Word :=
  let bytes := Bytes.bigEndian n
  if bytes.length ≤ width then .ok (ofBytes (bytes.alignRight width)) else .error .tooLarge

/-- The low half of a word, if the high half is zero. -/
def toHalf? (w : Word) : Except ConversionError (BitVec 128) :=
  if w.toNat < 2 ^ 128 then .ok (w.setWidth 128) else .error .tooLarge

def hex (w : Word) : String := Hex.text (toBytes w)

@[simp] theorem length_toBytes (w : Word) : (toBytes w).length = width := Bytes.length_ofNat ..

end Word

end Arbitrage
