import Arbitrage.Text.Hex

/-!
# Characters in messages

A message that quotes a character spells it so that it can be seen: a backslash marks the quote, the
backslash itself and the usual controls, and a character that does not print is given by its number
in hexadecimal digits between braces. Only characters of one byte are ever quoted.
-/

namespace Arbitrage.Text

/-- Whether a character of one byte leaves a mark when it is printed. The no-break space and the
soft hyphen do not. -/
def isVisible (c : Char) : Bool :=
  let n := c.toNat
  (0x20 ≤ n && n ≤ 0x7e) || (0xa1 ≤ n && n ≤ 0xff && n ≠ 0xad)

/-- The hexadecimal digits of a number below 256, without a zero in front. -/
def hexDigits (n : Nat) : List Char :=
  if n < 16 then [Hex.digit n] else [Hex.digit (n / 16), Hex.digit (n % 16)]

/-- The letter behind the backslash, for the characters that are spelled with one. -/
def backslashed? (c : Char) : Option Char :=
  [(Char.ofNat 0, '0'), ('\t', 't'), ('\n', 'n'), ('\r', 'r'), ('\'', '\''), ('\\', '\\')].lookup c

def spell (c : Char) : List Char :=
  match backslashed? c with
  | some letter => ['\\', letter]
  | none =>
    if isVisible c then [c] else ['\\', 'u', '\x7b'] ++ hexDigits c.toNat ++ ['\x7d']

def quote (c : Char) : String := String.ofList ('\'' :: spell c ++ ['\''])

end Arbitrage.Text

namespace Arbitrage.Hex

/-- The wording of a fault, with the character in quotes where there is one to name. -/
def Fault.message : Fault → String
  | .oddLength => "odd number of digits"
  | .wrongLength => "invalid string length"
  | .notDigit code position =>
    "invalid character " ++ Text.quote (Char.ofNat code) ++ " at position " ++ toString position

end Arbitrage.Hex
