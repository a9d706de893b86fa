import Arbitrage.Text.Composition
import Arbitrage.Url.Domain.Direction
import Arbitrage.Url.Domain.Joining
import Arbitrage.Url.Domain.Mapping
import Arbitrage.Url.Domain.Marks
import Arbitrage.Url.Domain.Punycode

/-!
# Domains

A domain is a list of labels with dots between them. Reading maps every character to what it stands
for and composes the whole; then a label that is marked as an encoded one is decoded, and has to be
in mapped and composed form already. A sound domain is written in ASCII: labels with characters
beyond it are encoded and marked.
-/

namespace Arbitrage.Url.Domain

def isAscii (c : Char) : Bool := c.toNat < 128

def isForbidden (c : Char) : Bool :=
  c.toNat ≤ 0x20 || c.toNat == 0x7f ||
    ['#', '%', '/', ':', '<', '>', '?', '@', '[', '\\', ']', '^', '|'].contains c

/-- What encoded labels begin with, which tells them from labels that are ASCII from the start. -/
def marker : List Char := ['x', 'n', '-', '-']

def longestCode : Nat := 2000

/-- The most characters of a label that is to be encoded. -/
def longestLabel : Nat := 1000

/-- The mapped and composed form of a text, unless a character may not occur in it. -/
def mapText? (cs : List Char) : Option (List Char) := do
  return Text.Composition.compose (← cs.mapM Mapping.map?).flatten

/-- The text that an encoded label stands for. A code that ends with a dash has no character that
would have to be encoded. -/
def decode? (code : List Char) : Option (List Char) :=
  if code.isEmpty || code.getLast? == some '-' then none
  else if longestCode < code.length || !code.all isAscii then none
  else (Punycode.decode? code).filter fun label => mapText? label == some label

def readLabel? (label : List Char) : Option (List Char) :=
  if marker.isPrefixOf label then decode? (label.drop marker.length) else some label

def writeLabel (label : List Char) : List Char :=
  if label.all isAscii then label else marker ++ Punycode.encode label

/-- Whether a label begins with a character of its own, has joiners only where they belong, and is
not too long to be encoded. -/
def isSound (label : List Char) : Bool :=
  !label.head?.any isMark && Joining.suits [] label &&
    (label.all isAscii || label.length ≤ longestLabel)

/-- Whether the labels of a domain can be read in one way only. -/
def isReadable (labels : List (List Char)) : Bool :=
  let directions := labels.map (·.map Direction.ofChar)
  !directions.any (·.any Direction.isRightward) || directions.all Direction.suits

/-- A domain in ASCII, unless it is not sound: its characters are mapped, its labels checked, and
those that need it are encoded. -/
def ascii? (domain : List Char) : Option (List Char) := do
  let mapped ← mapText? domain
  if mapped.any isForbidden then none
  let labels ← (Text.splitOn (· == '.') mapped).mapM readLabel?
  if labels.all isSound && isReadable labels then
    return ['.'].intercalate (labels.map writeLabel)
  else none

end Arbitrage.Url.Domain
