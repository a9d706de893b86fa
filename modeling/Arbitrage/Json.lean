import Arbitrage.Amount.Decimal

/-!
# JSON values

The values that a node answers with, and the text of the reports that the keeper writes: no blanks,
fields in the order given, and in strings an escape for the quote, the backslash and the control
characters only. Amounts travel as strings.
-/

namespace Arbitrage

/-- A JSON value; a number is `mantissa * 10 ^ -exponent`, so that no digit of an amount is lost.
The fields of an object keep their order, and a name may occur twice. -/
inductive Json
  | null
  | bool (value : Bool)
  | number (mantissa : Int) (exponent : Nat)
  | string (value : String)
  | array (items : List Json)
  | object (fields : List (String × Json))
  deriving Repr, Inhabited

namespace Json

def ofNat (n : Nat) : Json := .number n 0

/-- The value of a field of an object: the first of that name, and nothing for a value that is no
object. -/
def field? (json : Json) (name : String) : Option Json :=
  match json with
  | .object fields => (fields.find? (·.1 == name)).map (·.2)
  | _ => none

/-- The spelling of one character inside a string. Only what would end the string or break a line is
escaped, and everything beyond ASCII stands for itself. -/
def escape (c : Char) : List Char :=
  let n := c.toNat
  if c = '"' then ['\\', '"']
  else if c = '\\' then ['\\', '\\']
  else if n = 8 then ['\\', 'b']
  else if n = 9 then ['\\', 't']
  else if n = 10 then ['\\', 'n']
  else if n = 12 then ['\\', 'f']
  else if n = 13 then ['\\', 'r']
  else if n < 32 then ['\\', 'u', '0', '0', Hex.digit (n / 16), Hex.digit (n % 16)]
  else [c]

def renderString (s : String) : List Char := '"' :: s.toList.flatMap escape ++ ['"']

/-- The text of a number, its digits after the point given by the exponent; trailing zeros stay. -/
def renderNumber (mantissa : Int) (exponent : Nat) : List Char :=
  let sign := if mantissa < 0 then ['-'] else []
  sign ++ (if exponent = 0 then Decimal.digits mantissa.natAbs
    else Decimal.write exponent mantissa.natAbs)

mutual

/-- The text of a value, without blanks. The functions for items and fields write what stands behind
the first one, its closing bracket included. -/
def render : Json → List Char
  | .null => "null".toList
  | .bool true => "true".toList
  | .bool false => "false".toList
  | .number mantissa exponent => renderNumber mantissa exponent
  | .string value => renderString value
  | .array [] => "[]".toList
  | .array (item :: items) => '[' :: render item ++ renderItems items
  | .object [] => ['{', '}']
  | .object ((name, value) :: fields) =>
    '{' :: renderString name ++ ':' :: render value ++ renderFields fields

def renderItems : List Json → List Char
  | [] => [']']
  | item :: items => ',' :: render item ++ renderItems items

def renderFields : List (String × Json) → List Char
  | [] => ['}']
  | (name, value) :: fields =>
    ',' :: renderString name ++ ':' :: render value ++ renderFields fields

end

def text (json : Json) : String := String.ofList json.render

end Json

namespace Amount

variable {s : Scale}

/-- An amount as a JSON string, since a JSON number may lose digits on the way to its reader. -/
def toJson (a : Amount s) : Json := .string a.text

/-- Read an amount from a JSON string; no other value holds one, and a string need not spell one. -/
def ofJson? (s : Scale) : Json → Option (Except NumericError (Amount s))
  | .string input => some (parse s input)
  | _ => none

end Amount

end Arbitrage
