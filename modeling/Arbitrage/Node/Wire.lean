import Arbitrage.Node

/-!
# The form of a node's answers

Byte strings, hashes and addresses are hexadecimal text, or arrays of their bytes. Quantities are
JSON numbers of 64 bits or text in base 16, 8 or 2, told by the mark in front, or else in base 10;
underscores between the digits do not count. A receipt is an object with the fields of its kind of
transaction, and one whose status is missing but that has a state root tells of success.
-/

namespace Arbitrage.Wire

/-- The digit that a character stands for, letters of both cases counting on from ten; whether the
base has it is not decided here. -/
def digit? (c : Char) : Option Nat :=
  let n := c.toNat
  if 48 ≤ n ∧ n ≤ 57 then some (n - 48)
  else if 97 ≤ n ∧ n ≤ 122 then some (n - 87)
  else if 65 ≤ n ∧ n ≤ 90 then some (n - 55)
  else none

/-- The base that the mark in front of a number tells, and the digits behind the mark; without a
mark the base is ten. -/
def base : List Char → Nat × List Char
  | '0' :: 'x' :: rest | '0' :: 'X' :: rest => (16, rest)
  | '0' :: 'o' :: rest | '0' :: 'O' :: rest => (8, rest)
  | '0' :: 'b' :: rest | '0' :: 'B' :: rest => (2, rest)
  | cs => (10, cs)

/-- Read digits in a base, the number before them being `n`. No digits at all are zero, and an
underscore is passed over wherever it stands. -/
def readDigits (base : Nat) : (n : Nat) → List Char → Option Nat
  | n, [] => some n
  | n, c :: cs =>
    if c = '_' then readDigits base n cs
    else
      match digit? c with
      | some d => if d < base then readDigits base (base * n + d) cs else none
      | none => none

/-- The number that a JSON value spells, of any size if it is text. -/
def number? : Json → Option Nat
  | .number (.ofNat n) 0 => if n < 2 ^ 64 then some n else none
  | .string s => readDigits (base s.toList).1 0 (base s.toList).2
  | _ => none

def quantity? (bits : Nat) (json : Json) : Option Nat :=
  (number? json).filter (· < 2 ^ bits)

def byte? : Json → Option UInt8
  | .number (.ofNat n) 0 => if n < 256 then some (UInt8.ofNat n) else none
  | _ => none

/-- A byte string: hexadecimal text, behind a mark or not, or an array of numbers below 256. -/
def bytes? : Json → Option Bytes
  | .string s => (Hex.decodeAny ((Bytes.ofText s).map UInt8.toNat)).toOption
  | .array items => items.mapM byte?
  | _ => none

def fixedBytes? (width : Nat) (json : Json) : Option Bytes :=
  (bytes? json).filter (·.length == width)

def hash? (json : Json) : Option Word := (fixedBytes? Word.width json).map Word.ofBytes

def address? (json : Json) : Option Address := (fixedBytes? Address.width json).map Address.ofBytes

def list? {α : Type} (read : Json → Option α) : Json → Option (List α)
  | .array items => items.mapM read
  | _ => none

def field? {α : Type} (json : Json) (name : String) (read : Json → Option α) : Option α :=
  (json.field? name).bind read

/-- A field of an object that may be absent or null. -/
def optional? {α : Type} (json : Json) (name : String) (read : Json → Option α) :
    Option (Option α) :=
  match json.field? name with
  | none | some .null => some none
  | some value => (read value).map some

/-- A field of an object that must be present but may be null. -/
def nullable? {α : Type} (json : Json) (name : String) (read : Json → Option α) :
    Option (Option α) :=
  if (json.field? name).isSome then optional? json name read else none

/-- A field of an object that goes by one of two names, but not by both, and may be absent or null
under either. -/
def either? {α : Type} (json : Json) (name other : String) (read : Json → Option α) :
    Option (Option α) :=
  if (json.field? name).isSome && (json.field? other).isSome then none
  else (optional? json name read).bind fun a => (optional? json other read).map a.or

def flag? : Json → Option Bool
  | .bool value => some value
  | _ => none

/-- A field of an object that may be absent, but not null. -/
def absent? {α : Type} (json : Json) (name : String) (read : Json → Option α) :
    Option (Option α) :=
  match json.field? name with
  | none => some none
  | some value => (read value).map some

/-- The number of kinds of transactions that a receipt may be of, each kind having a number below
it. -/
def kinds : Nat := 5

/-- A kind of transaction, given by its number or by its name: `0x` and one digit, or two. -/
def kind? : Json → Option Nat
  | .number (.ofNat n) 0 => if n < kinds then some n else none
  | .string name => (List.range kinds).find? fun kind =>
      name == "0x" ++ toString kind || name == "0x0" ++ toString kind
  | _ => none

/-- Whether the transaction of a receipt took effect. Receipts from before there was a status have a
state root in its place, and are taken to tell of success. -/
def status? (json : Json) : Option Bool :=
  match field? json "status" (quantity? 1) with
  | some status => some (status == 1)
  | none => (field? json "root" hash?).map fun _ => true

def filterWidth : Nat := 256

/-- A log of a receipt, of which nothing is kept: it only must have the fields of a log. -/
def log? (json : Json) : Option Unit := do
  let _ ← field? json "address" address?
  let _ ← field? json "topics" (list? hash?)
  let _ ← field? json "data" bytes?
  let _ ← optional? json "blockHash" hash?
  let _ ← nullable? json "blockNumber" (quantity? 64)
  let _ ← optional? json "blockTimestamp" (quantity? 64)
  let _ ← optional? json "transactionHash" hash?
  let _ ← nullable? json "transactionIndex" (quantity? 64)
  let _ ← nullable? json "logIndex" (quantity? 64)
  let _ ← absent? json "removed" flag?

/-- The receipt of a transaction. Most of its fields are only required to be there, in their form,
and are not kept. -/
def receipt? (json : Json) : Option Node.Mined := do
  let _ ← field? json "type" kind?
  let status ← status? json
  let _ ← field? json "cumulativeGasUsed" (quantity? 64)
  let _ ← field? json "logs" (list? log?)
  let _ ← field? json "logsBloom" (fixedBytes? filterWidth)
  let _ ← field? json "transactionHash" hash?
  let _ ← optional? json "transactionIndex" (quantity? 64)
  let _ ← optional? json "blockHash" hash?
  let block ← optional? json "blockNumber" (quantity? 64)
  let gas ← field? json "gasUsed" (quantity? 64)
  let _ ← either? json "effectiveGasPrice" "gasPrice" (quantity? 128)
  let _ ← optional? json "blobGasUsed" (quantity? 64)
  let _ ← optional? json "blobGasPrice" (quantity? 128)
  let _ ← field? json "from" address?
  let _ ← optional? json "to" address?
  let _ ← optional? json "contractAddress" address?
  return { block, gas, status }

/-- How a node's replies are read, as the fields of a `ReplyReader`. -/
def reader : ReplyReader where
  bytes := bytes?
  number := quantity? 64
  hash := hash?
  receipt := receipt?

end Arbitrage.Wire
