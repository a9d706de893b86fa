/-!
# Blank characters and trimming

A blank is a character with the Unicode property `White_Space`. Values read from options and from
requests are trimmed of blanks on both sides before anything else looks at them; the untrimmed text
is kept only for messages.
-/

namespace Arbitrage.Text

/-- The characters with the property `White_Space`, which is wider than the blanks of ASCII. -/
def isBlank (c : Char) : Bool :=
  let n := c.toNat
  (0x09 ≤ n && n ≤ 0x0d) || n == 0x20 || n == 0x85 || n == 0xa0 || n == 0x1680 ||
    (0x2000 ≤ n && n ≤ 0x200a) || n == 0x2028 || n == 0x2029 || n == 0x202f || n == 0x205f ||
    n == 0x3000

def trimBlanks (cs : List Char) : List Char :=
  ((cs.dropWhile isBlank).reverse.dropWhile isBlank).reverse

def trim (s : String) : String := String.ofList (trimBlanks s.toList)

@[simp] theorem trimBlanks_nil : trimBlanks [] = [] := rfl

/-- Compare two texts letter by letter, taking `A` to `Z` as `a` to `z`. -/
def sameIgnoringCase (s t : String) : Bool :=
  s.toList.map Char.toLower == t.toList.map Char.toLower

/-- Remove every leading `0x`, however many there are; a mark in capitals stays. -/
def dropHexMarks : List Char → List Char
  | '0' :: 'x' :: rest => dropHexMarks rest
  | cs => cs

def startsWith (start : List Char) (cs : List Char) : Bool := start.isPrefixOf cs

end Arbitrage.Text
