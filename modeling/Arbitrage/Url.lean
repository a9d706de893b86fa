import Arbitrage.Settings.Given
import Arbitrage.Text.Blank
import Arbitrage.Url.Host

/-!
# Web addresses

A web address has a scheme, an authority, a path, a query and a fragment; the authority names a
user, a host and one of the host's ports. Reading normalises it: scheme and host in lower case,
default ports left out, a path that starts with a slash and has no dot segments, and percent escapes
where a part needs them. Only addresses of the web are taken apart; what follows any other scheme is
kept as it is, but the authority in it has to be sound.

The command reads the address of its node in this way (`Url.reader`); nothing else depends on it.
-/

namespace Arbitrage

/-- A normalised web address, in the parts that its text is put together from. -/
structure Url where
  scheme : List Char
  userinfo : List Char := []
  host : List Char := []
  portNumber : Option Nat := none
  path : List Char := []
  query : Option (List Char) := none
  fragment : Option (List Char) := none
  deriving DecidableEq, Repr

namespace Url

/-- The default ports of the schemes of the web; a scheme without one is read in another way. -/
def defaultPort? (scheme : List Char) : Option Nat :=
  [("http", 80), ("https", 443), ("ws", 80), ("wss", 443), ("ftp", 21)].lookup
    (String.ofList scheme)

def isSchemeChar (c : Char) : Bool := c.isAlphanum || c == '+' || c == '-' || c == '.'

/-- The scheme in front of a colon, and what follows the colon. -/
def scheme? (cs : List Char) : Option (List Char × List Char) :=
  let scheme := cs.takeWhile isSchemeChar
  match scheme, cs.dropWhile isSchemeChar with
  | c :: _, ':' :: rest => if c.isAlpha then some (scheme.map Char.toLower, rest) else none
  | _, _ => none

def isSlash (c : Char) : Bool := c == '/' || c == '\\'

def endsAuthority (c : Char) : Bool := isSlash c || c == '?' || c == '#'

def cutLast (mark : Char) (cs : List Char) : Option (List Char × List Char) :=
  if cs.contains mark then
    some (((cs.reverse.dropWhile (· != mark)).drop 1).reverse,
      (cs.reverse.takeWhile (· != mark)).reverse)
  else none

def userinfoText (cs : List Char) : List Char :=
  let user := escape escapedInUserinfo (cs.takeWhile (· != ':'))
  let password := escape escapedInUserinfo ((cs.dropWhile (· != ':')).drop 1)
  if user.isEmpty && password.isEmpty then []
  else user ++ (if password.isEmpty then [] else ':' :: password) ++ ['@']

/-- Ports are given in decimal digits and go up to 65535; nothing is none of them. -/
def portNumber? (cs : List Char) : Except Fault (Option Nat) :=
  if cs.isEmpty then .ok none
  else if cs.all Char.isDigit then
    let n := Decimal.number cs
    if n < 65536 then .ok (some n) else .error .badPort
  else .error .badPort

/-- Cut a place at the colon that is not inside brackets. -/
def cutPort : (bracketed : Bool) → List Char → List Char × List Char
  | _, [] => ([], [])
  | bracketed, c :: cs =>
    if c = ':' ∧ !bracketed then ([], cs)
    else
      let rest := cutPort (c == '[' || (bracketed && c != ']')) cs
      (c :: rest.1, rest.2)

def isDot (segment : List Char) : Bool :=
  [".", "%2e"].contains (String.ofList (segment.map Char.toLower))

def isDoubleDot (segment : List Char) : Bool :=
  ["..", ".%2e", "%2e.", "%2e%2e"].contains (String.ofList (segment.map Char.toLower))

def isDrive : List Char → Bool
  | [letter, mark] => letter.isAlpha && (mark == ':' || mark == '|')
  | _ => false

/-- The segments of the place above, given in reverse; there is none above a drive. -/
def above : List (List Char) → List (List Char)
  | [] => []
  | segment :: before => if isDrive segment then segment :: before else before

def resolve : (before : List (List Char)) → List (List Char) → List (List Char)
  | before, [] => before.reverse
  | before, segment :: rest =>
    if isDoubleDot segment then
      resolve (if rest.isEmpty then [] :: above before else above before) rest
    else if isDot segment then resolve (if rest.isEmpty then [] :: before else before) rest
    else resolve (segment :: before) rest

def pathText (cs : List Char) : List Char :=
  let cs := match cs with
    | c :: rest => if isSlash c then rest else cs
    | [] => []
  '/' :: ['/'].intercalate (resolve [] ((Text.splitOn isSlash cs).map (escape escapedInPath)))

/-- What follows the first occurrence of a character, if there is one. -/
def after (mark : Char) (cs : List Char) : Option (List Char) :=
  match cs.dropWhile (· != mark) with
  | [] => none
  | _ :: rest => some rest

/-- Check the host in an address of a file, which may be missing, and in whose place a drive may
stand. -/
def checkFile : List Char → Except Fault Unit
  | c :: d :: rest =>
    let host := rest.takeWhile (!endsAuthority ·)
    if isSlash c && isSlash d && !host.isEmpty && !isDrive host then (hostOf host).map fun _ => ()
    else .ok ()
  | _ => .ok ()

/-- Check the authority in an address of any other kind. The host may be missing, but then there
must be neither a user nor a port number. -/
def checkAuthority : List Char → Except Fault Unit
  | '/' :: '/' :: rest => do
    let authority := rest.takeWhile fun c => c != '/' && c != '?' && c != '#'
    if authority = ['@'] ∧ authority.length < rest.length then throw .emptyHost
    let (userinfo, place) := (cutLast '@' authority).getD ([], authority)
    let (hostText, portText) := cutPort false place
    let host ← opaqueHostOf hostText
    if host.isEmpty && !place.isEmpty then throw .emptyHost
    let _ ← portNumber? (portText.takeWhile (· != '\\'))
    if host.isEmpty && !(userinfoText userinfo).isEmpty then throw .emptyHost
  | _ => .ok ()

/-- Read what follows the scheme of a web address: the authority, and behind it the path, the query
and the fragment. -/
def parseWeb (scheme : List Char) (defaultPort : Nat) (cs : List Char) : Except Fault Url := do
  let cs := cs.dropWhile isSlash
  let authority := cs.takeWhile (!endsAuthority ·)
  let rest := cs.dropWhile (!endsAuthority ·)
  let (userinfo, place) := (cutLast '@' authority).getD ([], authority)
  let (hostText, portText) := cutPort false place
  let host ← hostOf hostText
  let number ← portNumber? portText
  let beforeFragment := rest.takeWhile (· != '#')
  return {
    scheme, host
    userinfo := userinfoText userinfo
    portNumber := if number = some defaultPort then none else number
    path := pathText (beforeFragment.takeWhile (· != '?'))
    query := (after '?' beforeFragment).map (escape escapedInQuery)
    fragment := (after '#' rest).map (escape escapedInFragment) }

/-- Read an address. Tabs and line ends do not count, nor do blanks and controls at its ends. -/
def parse (input : String) : Except Fault Url :=
  let atEnds (c : Char) := c.toNat ≤ 0x20
  let cs := ((input.toList.dropWhile atEnds).reverse.dropWhile atEnds).reverse
  let cs := cs.filter fun c => c != '\t' && c != '\n' && c != '\r'
  match scheme? cs with
  | none => .error .relative
  | some (scheme, rest) =>
    match defaultPort? scheme with
    | some defaultPort => parseWeb scheme defaultPort rest
    | none => do
      if String.ofList scheme == "file" then checkFile rest else checkAuthority rest
      return { scheme, path := rest }

def authority (u : Url) : List Char :=
  if u.host.isEmpty then []
  else '/' :: '/' :: u.userinfo ++ u.host ++
    (u.portNumber.map fun n => ':' :: Decimal.digits n).getD []

/-- The normalised text, its parts one behind the other with their marks in between. -/
def text (u : Url) : String :=
  String.ofList (u.scheme ++ ':' :: u.authority ++ u.path ++
    (u.query.map ('?' :: ·)).getD [] ++ (u.fragment.map ('#' :: ·)).getD [])

/-- Normalised addresses as web addresses: the reader that the command fills in. -/
def reader : UrlReader Url where
  read text := (parse text).mapError Fault.message
  scheme u := String.ofList u.scheme

end Url

end Arbitrage
