import Arbitrage.Text.Hex
import Arbitrage.Text.Split

/-!
# Tables of characters

A table lists ranges of characters in increasing order, each with some numbers that hold for it. It
is written as words: `41-5a:61` is the range from 41 to 5a with the number 61, all in hexadecimal
digits; a range of one character has no dash, and a range without numbers no colon. What a table
finds for a character is a range that holds it.
-/

namespace Arbitrage

/-- A range of characters, and what is known of all of them. -/
structure CharRange where
  first : Nat
  last : Nat
  values : List Nat := []
  deriving DecidableEq, Repr

namespace CharRange

def number (digits : List Char) : Nat :=
  digits.foldl (fun n c => 16 * n + (Hex.value? c.toNat).getD 0) 0

def read (word : List Char) : CharRange :=
  let range := word.takeWhile (· ≠ ':')
  let values := (word.dropWhile (· ≠ ':')).drop 1
  let bounds := (Text.splitOn (· == '-') range).map number
  { first := bounds.head?.getD 0
    last := bounds.getLast?.getD 0
    values := if values.isEmpty then [] else (Text.splitOn (· == ',') values).map number }

end CharRange

/-- Ranges in increasing order, which is what the search by halves relies on. -/
structure CharTable where
  ranges : Array CharRange

namespace CharTable

/-- Read a table from the lines that it is written on. -/
def ofLines (lines : List String) : CharTable :=
  ⟨(lines.flatMap fun line => (Text.splitOn (· == ' ') line.toList).map CharRange.read).toArray⟩

/-- Look for the range of a character from place `low` on and before place `high`. -/
def search (ranges : Array CharRange) (c low high : Nat) : Option CharRange :=
  if low < high then
    match ranges[(low + high) / 2]? with
    | none => none
    | some range =>
      if c < range.first then search ranges c low ((low + high) / 2)
      else if range.last < c then search ranges c ((low + high) / 2 + 1) high
      else some range
  else none
termination_by high - low
decreasing_by all_goals omega

def find? (t : CharTable) (c : Char) : Option CharRange := search t.ranges c.toNat 0 t.ranges.size

def contains (t : CharTable) (c : Char) : Bool := (t.find? c).isSome

end CharTable

end Arbitrage
