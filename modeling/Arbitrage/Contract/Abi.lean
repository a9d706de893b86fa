import Arbitrage.Address

/-!
# The layout of contract calls

Arguments and results of contracts are laid out in words of 32 bytes. A tuple is a row of heads
followed by tails: a part of fixed size stands in its head, a part of variable size stands in its
tail and its head holds the offset of that tail from the start of the tuple. An array of variable
length is its length followed by the tuple of its items; a byte string is its length followed by
its bytes, filled up with zeros to whole words.
-/

namespace Arbitrage.Abi

def word (n : Nat) : Bytes := Bytes.ofNat Word.width n

/-- One word holding an address, in its low bytes. -/
def address (a : Address) : Bytes := word a.bits.toNat

/-- One part of a tuple, encoded. The head of a tuple has the parts of fixed size themselves, and
for the others the place at which they start. -/
inductive Part
  /-- A part of fixed size, standing in its head. -/
  | static (head : Bytes)
  /-- A part of variable size, standing in its tail. -/
  | dynamic (tail : Bytes)
  deriving DecidableEq, Repr

namespace Part

/-- The bytes that the head of a part takes. For a part of variable size that is the word with its
offset. -/
def headSize : Part → Nat
  | static head => head.length
  | dynamic _ => Word.width

/-- The bytes that a part has behind the heads, none for one of fixed size. -/
def tail : Part → Bytes
  | static _ => []
  | dynamic tail => tail

end Part

/-- The heads of some parts, one after the other, where the first tail starts at `offset`. Every
tail moves the next one on by its length. -/
def heads : (offset : Nat) → List Part → Bytes
  | _, [] => []
  | offset, .static head :: parts => head ++ heads offset parts
  | offset, .dynamic tail :: parts => word offset ++ heads (offset + tail.length) parts

/-- The bytes that all heads take. -/
def headSizes (parts : List Part) : Nat := (parts.map Part.headSize).sum

/-- A tuple: all heads, then all tails. Offsets are counted from the start of the tuple. -/
def tuple (parts : List Part) : Bytes := heads (headSizes parts) parts ++ parts.flatMap Part.tail

/-- An array of variable length: the number of its items, and then the items as a tuple. -/
def array (items : List Part) : Bytes := word items.length ++ tuple items

/-- Zeros up to a whole number of words. -/
def padding (length : Nat) : Bytes :=
  List.replicate ((Word.width - length % Word.width) % Word.width) 0

/-- A byte string of variable length: its length in bytes, the bytes, and zeros up to a whole number
of words. -/
def bytes (data : Bytes) : Bytes := word data.length ++ data ++ padding data.length

/-- The word at a place of returned data, counted in words, if the data reaches that far. What
stands behind it does not matter. -/
def wordAt? (data : Bytes) (index : Nat) : Option Word :=
  let rest := data.drop (Word.width * index)
  if Word.width ≤ rest.length then some (Word.ofBytes (rest.take Word.width)) else none

/-- The address in a word. Whatever stands in front of it is ignored. -/
def addressOf (w : Word) : Address := ⟨w.setWidth 160⟩

/-- The flag in a word: anything but zero is true. -/
def flagOf (w : Word) : Bool := w != 0

@[simp] theorem length_word (n : Nat) : (word n).length = Word.width := Bytes.length_ofNat ..

@[simp] theorem length_address (a : Address) : (address a).length = Word.width := length_word _

end Arbitrage.Abi
