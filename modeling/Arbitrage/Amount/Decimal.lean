import Arbitrage.Amount.Basic
import Arbitrage.Text.Blank

/-!
# Decimal text of amounts

An amount is written with its whole part and exactly as many digits after the point as its scale
has. Reading accepts, between blanks, ASCII digits with at most one point, at least one digit in
all, and no more digits after the point than the scale has. A refusal quotes the untrimmed text.
-/

namespace Arbitrage

/-- Errors of amount arithmetic and amount text. The context names the computation that failed. -/
inductive NumericError
  | invalidDecimal (input reason : String)
  | divisionByZero (context : String)
  | negativeAmount (context : String)
  deriving DecidableEq, Repr

def NumericError.message : NumericError → String
  | .invalidDecimal input reason => "Invalid decimal '" ++ input ++ "': " ++ reason
  | .divisionByZero context => "Division by zero while computing " ++ context
  | .negativeAmount context => "Negative amount while computing " ++ context

namespace Decimal

/-- Why a text is no decimal number of a scale. The faults are looked for in this order, so that a
text with several of them has one reason. -/
inductive Fault
  | empty
  | noDigits
  | notDigit
  | tooManyPlaces
  deriving DecidableEq, Repr

def Fault.reason : Fault → String
  | .empty => "empty value"
  | .noDigits => "no digits"
  | .notDigit => "only unsigned decimal digits are allowed"
  | .tooManyPlaces => "too many fractional digits for this scale"

/-- The number that a run of decimal digits spells. -/
def number (digits : List Char) : Nat := digits.foldl (fun n c => 10 * n + (c.toNat - 48)) 0

/-- The decimal digits of a number, zero having one. -/
def digits (n : Nat) : List Char := Nat.toDigits 10 n

/-- The decimal digits of a number, with zeros in front up to a width. A number that needs more
digits keeps them all. -/
def paddedDigits (width n : Nat) : List Char :=
  List.replicate (width - (digits n).length) '0' ++ digits n

/-- Read a decimal number as a number of steps of `10 ^ -places`. One of the two sides of the point
may be missing, and so may the point, but there are neither signs nor exponents nor more places than
the scale has. -/
def read (places : Nat) (text : List Char) : Except Fault Nat :=
  let whole := text.takeWhile (· ≠ '.')
  let fraction := (text.dropWhile (· ≠ '.')).drop 1
  if text.isEmpty then .error .empty
  else if whole.isEmpty && fraction.isEmpty then .error .noDigits
  else if !(whole.all Char.isDigit && fraction.all Char.isDigit) then .error .notDigit
  else if places < fraction.length then .error .tooManyPlaces
  else .ok (number whole * 10 ^ places + number fraction * 10 ^ (places - fraction.length))

/-- Write a number of steps of `10 ^ -places`, with all the places of the scale, zeros included.
There is one such text for each number. -/
def write (places n : Nat) : List Char :=
  digits (n / 10 ^ places) ++ '.' :: paddedDigits places (n % 10 ^ places)

end Decimal

def Scale.label : Scale → String
  | .wad => "Wad"
  | .ray => "Ray"
  | .rad => "Rad"

namespace Amount

variable {s : Scale}

/-- The decimal text of an amount, which has as many places as the scale. -/
def text (a : Amount s) : String := String.ofList (Decimal.write s.decimals a.raw)

/-- The decimal text of an amount with the name of its scale, for messages in which the scale
matters. -/
def labelledText (a : Amount s) : String := s.label ++ "(" ++ a.text ++ ")"

/-- Read an amount from decimal text. Blanks around the text do not matter. A failure quotes the
text as it was given and says why it is no amount. -/
def parse (s : Scale) (input : String) : Except NumericError (Amount s) :=
  match Decimal.read s.decimals (Text.trimBlanks input.toList) with
  | .ok n => .ok ⟨n⟩
  | .error fault => .error (.invalidDecimal input fault.reason)

end Amount

end Arbitrage
