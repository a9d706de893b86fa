import Arbitrage.Keccak
import Arbitrage.Text.Blank
import Arbitrage.Word

/-!
# Account and contract addresses

An address is twenty bytes. Its plain spelling is `0x` and forty lower-case digits; its checksummed
spelling raises the letters whose place in the Keccak-256 hash of the plain digits holds eight or
more. Reading trims blanks, removes every leading `0x`, and then still allows one `0X`.
-/

namespace Arbitrage

structure Address where
  bits : BitVec 160
  deriving DecidableEq, Repr, Inhabited

namespace Address

def width : Nat := 20

def ofBytes (bytes : Bytes) : Address := ⟨BitVec.ofNat 160 bytes.toNat⟩

def toBytes (a : Address) : Bytes := Bytes.ofNat width a.bits.toNat

/-- The address whose bytes are all the same. Such addresses stand for tokens, contracts and owners
where a market is made up. -/
def repeated (byte : UInt8) : Address := ofBytes (List.replicate width byte)

/-- The plain spelling: `0x` and forty lower-case digits, two for each byte, the most significant
byte first. -/
def hex (a : Address) : String := Hex.text a.toBytes

/-- The spelling with a checksum in the case of its letters: a letter is a capital where the hash of
the plain digits has a digit of eight or more in its place. -/
def checksum (a : Address) : String :=
  let digits := Hex.encode a.toBytes
  let marks := Hex.encode (Keccak.hash (digits.map fun c => c.val.toUInt8))
  String.ofList ('0' :: 'x' ::
    List.zipWith (fun c mark => if '8' ≤ mark then c.toUpper else c) digits marks)

/-- The first six characters and the last four of the plain spelling. It is what an asset without a
symbol is called. -/
def short (a : Address) : String :=
  let text := a.hex.toList
  String.ofList (text.take 6 ++ '…' :: text.drop (text.length - 4))

/-- Read an address. Blanks around it do not matter, nor do marks in front of the digits; what is
left must be exactly forty digits, in either case. A failure quotes the text as it was given. -/
def parse (input : String) : Except ConversionError Address :=
  let digits := Text.dropHexMarks (Text.trimBlanks input.toList)
  match Hex.decode width ((Bytes.ofText (String.ofList digits)).map UInt8.toNat) with
  | .ok bytes => .ok (ofBytes bytes)
  | .error fault => .error (.badAddress input fault)

@[simp] theorem length_toBytes (a : Address) : a.toBytes.length = width := Bytes.length_ofNat ..

end Address

end Arbitrage
