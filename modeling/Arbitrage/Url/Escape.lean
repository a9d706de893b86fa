import Arbitrage.Bytes
import Arbitrage.Text.Hex

/-!
# Percent escapes

Each part of an address on the web has its own set of characters that are written as the escaped
bytes of their UTF-8 form. Control characters and everything beyond ASCII are in all of the sets.
-/

namespace Arbitrage.Url

def isControl (c : Char) : Bool := c.toNat < 0x20 || 0x7e < c.toNat

def escapedInFragment (c : Char) : Bool := isControl c || [' ', '"', '<', '>', '\x60'].contains c

def escapedInQuery (c : Char) : Bool := isControl c || [' ', '"', '#', '<', '>', '\''].contains c

def escapedInPath (c : Char) : Bool :=
  escapedInFragment c || ['#', '?', '\x7b', '\x7d'].contains c

def escapedInUserinfo (c : Char) : Bool :=
  escapedInPath c || ['/', ':', ';', '=', '@', '[', '\\', ']', '^', '|'].contains c

def escapeByte (b : UInt8) : List Char :=
  ['%', (Hex.digit (b.toNat / 16)).toUpper, (Hex.digit (b.toNat % 16)).toUpper]

def escape (escaped : Char → Bool) (cs : List Char) : List Char :=
  cs.flatMap fun c =>
    if escaped c then (Bytes.ofText (String.ofList [c])).flatMap escapeByte else [c]

def unescape : List Char → Bytes
  | '%' :: h :: l :: rest =>
    match Hex.value? h.toNat, Hex.value? l.toNat with
    | some high, some low => UInt8.ofNat (16 * high + low) :: unescape rest
    | _, _ => Bytes.ofText "%" ++ unescape (h :: l :: rest)
  | c :: rest => Bytes.ofText (String.ofList [c]) ++ unescape rest
  | [] => []
termination_by cs => cs.length

end Arbitrage.Url
