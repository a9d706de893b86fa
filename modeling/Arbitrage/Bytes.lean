/-!
# Byte strings

Byte strings are lists of bytes. A number is written big-endian either with the fewest bytes
(`bigEndian`, where zero still takes one byte) or in a fixed width that keeps the low bytes
(`ofNat`); `toNat` reads both back.
-/

namespace Arbitrage

/-- A string of bytes. -/
abbrev Bytes := List UInt8

namespace Bytes

/-- The number that a byte string spells, most significant byte first. -/
def toNat (bytes : Bytes) : Nat := bytes.foldl (fun n b => 256 * n + b.toNat) 0

/-- The low `width` bytes of a number, most significant byte first. Whatever does not fit is cut off
in front. -/
def ofNat : (width : Nat) → Nat → Bytes
  | 0, _ => []
  | width + 1, n => ofNat width (n / 256) ++ [UInt8.ofNat (n % 256)]

@[simp] theorem length_ofNat (width n : Nat) : (ofNat width n).length = width := by
  induction width generalizing n with
  | zero => rfl
  | succ width ih => simp [ofNat, ih]

/-- The fewest bytes that spell a number, most significant byte first; zero takes one. -/
def bigEndian (n : Nat) : Bytes :=
  if n < 256 then [UInt8.ofNat n] else bigEndian (n / 256) ++ [UInt8.ofNat (n % 256)]
termination_by n
decreasing_by omega

/-- Put zero bytes in front until the string is `width` bytes long. A longer string stays as it
is. -/
def alignRight (width : Nat) (bytes : Bytes) : Bytes :=
  List.replicate (width - bytes.length) 0 ++ bytes

/-- The bytes of a text in UTF-8. -/
def ofText (s : String) : Bytes := s.toUTF8.toList

/-- The text that bytes spell in UTF-8, if they spell any. -/
def toText? (bytes : Bytes) : Option String := String.fromUTF8? ⟨bytes.toArray⟩

end Bytes

end Arbitrage
