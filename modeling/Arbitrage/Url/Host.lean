import Arbitrage.Amount.Decimal
import Arbitrage.Url.Domain
import Arbitrage.Url.Escape

/-!
# Hosts

The host of a web address is a domain, which is written in ASCII, an IPv4 address, which is written
with four decimal numbers however it was given, or an IPv6 address in brackets, which is written in
its shortest form. Other addresses may have a host of any other form.
-/

namespace Arbitrage.Url

/-- Why a text is no web address, as far as the message tells the reasons apart. -/
inductive Fault
  | relative
  | emptyHost
  | badPort
  | badDomain
  | badCharacter
  | badIpv4
  | badIpv6
  deriving DecidableEq, Repr

def Fault.message : Fault → String
  | relative => "relative URL without a base"
  | emptyHost => "empty host"
  | badPort => "invalid port number"
  | badDomain => "invalid international domain name"
  | badCharacter => "invalid domain character"
  | badIpv4 => "invalid IPv4 address"
  | badIpv6 => "invalid IPv6 address"

namespace Ipv4

def digits? (base : Nat) : List Char → Option Nat :=
  List.foldlM (fun n c => do
    let d ← Hex.value? c.toNat
    if d < base then some (base * n + d) else none) 0

/-- One part of an address: hexadecimal behind `0x`, octal behind `0`, or decimal. -/
def part? : List Char → Option Nat
  | [] => none
  | '0' :: 'x' :: rest | '0' :: 'X' :: rest => digits? 16 rest
  | '0' :: c :: rest => digits? 8 (c :: rest)
  | cs => digits? 10 cs

/-- The parts of a domain; a dot at its end does not count. -/
def labels (host : List Char) : List (List Char) :=
  let parts := Text.splitOn (· == '.') host
  if 1 < parts.length && parts.getLast? == some [] then parts.dropLast else parts

/-- Whether a domain must be an IPv4 address: its last part is a number. -/
def isMeant (host : List Char) : Bool :=
  match (labels host).getLast? with
  | none | some [] => false
  | some last => last.all Char.isDigit || (part? last).isSome

/-- The number of an address: its last part fills all the bytes that the others leave. -/
def combine : (room : Nat) → List Nat → Option Nat
  | _, [] => none
  | room, [last] => if last < 256 ^ room then some last else none
  | 0, _ => none
  | room + 1, n :: rest =>
    if n < 256 then (combine room rest).map (n * 256 ^ room + ·) else none

def parse? (host : List Char) : Option Nat := do
  let parts ← (labels host).mapM part?
  if 4 < parts.length then none else combine 4 parts

def text (n : Nat) : List Char :=
  ['.'].intercalate ([n / 2 ^ 24, n / 2 ^ 16 % 256, n / 2 ^ 8 % 256, n % 256].map Decimal.digits)

end Ipv4

namespace Ipv6

/-- One or two of the eight pieces of an address: a hexadecimal number, or at the end of the
address an IPv4 address. -/
def piece? (last : Bool) (cs : List Char) : Option (List Nat) :=
  if last && cs.contains '.' then do
    let parts ← (Text.splitOn (· == '.') cs).mapM fun part =>
      if part.isEmpty ∨ 1 < part.length ∧ part.head? = some '0' then none
      else Ipv4.digits? 10 part
    match parts with
    | [a, b, c, d] =>
      if parts.all (· < 256) then some [256 * a + b, 256 * c + d] else none
    | _ => none
  else if cs.isEmpty ∨ 4 < cs.length then none
  else (Ipv4.digits? 16 cs).map ([·])

def side? (ends : Bool) (cs : List Char) : Option (List Nat) :=
  if cs.isEmpty then some []
  else
    let parts := Text.splitOn (· == ':') cs
    let isLast (i : Nat) := ends && i + 1 == parts.length
    (parts.zipIdx.mapM fun (part, i) => piece? (isLast i) part).map List.flatten

def cut : List Char → List Char × Option (List Char)
  | ':' :: ':' :: rest => ([], some rest)
  | c :: rest => ((c :: (cut rest).1), (cut rest).2)
  | [] => ([], none)

/-- The eight pieces of an address, with zeros for those that a pair of colons stands for. -/
def parse? (cs : List Char) : Option (List Nat) := do
  match cut cs with
  | (all, none) =>
    let pieces ← side? true all
    if pieces.length = 8 then some pieces else none
  | (front, some back) =>
    let front ← side? false front
    let back ← side? true back
    let gap := 8 - (front.length + back.length)
    if gap = 0 then none else some (front ++ List.replicate gap 0 ++ back)

/-- The length of the run of zeros that starts at a piece. -/
def zeros (pieces : List Nat) (start : Nat) : Nat := ((pieces.drop start).takeWhile (· == 0)).length

/-- The start and the length of the first longest run of two or more zeros. -/
def longestRun (pieces : List Nat) : Option (Nat × Nat) :=
  (List.range pieces.length).foldl (fun best start =>
    let length := zeros pieces start
    if 1 < length ∧ best.all (·.2 < length) then some (start, length) else best) none

def pieces (ns : List Nat) : List Char := [':'].intercalate (ns.map (Nat.toDigits 16))

/-- The shortest form, in brackets: the longest run of zeros gives way to a pair of colons. -/
def text (ns : List Nat) : List Char :=
  let inner := match longestRun ns with
    | none => pieces ns
    | some (start, length) =>
      pieces (ns.take start) ++ [':', ':'] ++ pieces (ns.drop (start + length))
  '[' :: inner ++ [']']

end Ipv6

def bracketed (cs : List Char) : Except Fault (List Char) :=
  match cs.reverse with
  | ']' :: inner =>
    match Ipv6.parse? inner.reverse with
    | some pieces => .ok (Ipv6.text pieces)
    | none => .error .badIpv6
  | _ => .error .badIpv6

/-- A domain as it is written, or the IPv4 address that it must be. -/
def domainOf (cs : List Char) : Except Fault (List Char) :=
  match (Bytes.toText? (unescape cs)).bind fun text => Domain.ascii? text.toList with
  | none => .error .badDomain
  | some [] => .error .emptyHost
  | some domain =>
    if Ipv4.isMeant domain then
      match Ipv4.parse? domain with
      | some n => .ok (Ipv4.text n)
      | none => .error .badIpv4
    else .ok domain

/-- A host as it is written: an address in brackets, an address of four numbers, or a domain. -/
def hostOf : List Char → Except Fault (List Char)
  | [] => .error .emptyHost
  | '[' :: rest => bracketed rest
  | cs => domainOf cs

def forbiddenInHost (c : Char) : Bool :=
  [Char.ofNat 0, '\t', '\n', '\r', ' ', '#', '/', ':', '<', '>', '?', '@', '[', '\\', ']', '^',
    '|'].contains c

/-- A host of a scheme that does not say what hosts are. -/
def opaqueHostOf : List Char → Except Fault (List Char)
  | '[' :: rest => bracketed rest
  | cs => if cs.any forbiddenInHost then .error .badCharacter else .ok (escape isControl cs)

end Arbitrage.Url
