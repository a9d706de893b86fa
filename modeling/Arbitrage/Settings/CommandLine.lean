import Arbitrage.Settings.Options

/-!
# The command line

Every option has a long flag and a variable of the environment. A flag takes its value behind an
equals sign or from the next word, which then must not start with a dash. A value from the next word
is checked only when the next flag begins or the words end, an attached one at once; the first error
from left to right is reported. Flags win over variables, and variables over defaults; what is
required and given by neither is reported last.
-/

namespace Arbitrage

/-- Why a command line is not run. Asking for help or for the version is among the reasons. -/
inductive UsageError
  | help
  | version
  /-- No flag of this name, or a word that belongs to none. -/
  | unknownWord
  | missingValue
  /-- A value for a flag that takes none. -/
  | extraValue
  /-- A value that is no number, or too large a one. -/
  | badValue
  /-- A flag given twice. -/
  | givenTwice
  | missingOption
  deriving DecidableEq, Repr

namespace UsageError

def exitCode : UsageError → Nat
  | help | version => 0
  | _ => 2

end UsageError

/-- The options of the command line, each of which has a flag and a variable of the environment. -/
inductive Choice
  | rpcUrl
  | privateKey
  | account
  | vaultAddress
  | vaultLiquidationAddress
  | bookAddress
  | baseAsset
  | minProfit
  | maxEngagement
  | batchExecutorAddress
  | maxDepth
  | retryAttempts
  | retryBackoffMs
  | pollIntervalMs
  deriving DecidableEq, Repr

namespace Choice

/-- The options in the order in which the help lists them. -/
def all : List Choice := [rpcUrl, privateKey, account, vaultAddress, vaultLiquidationAddress,
  bookAddress, baseAsset, minProfit, maxEngagement, batchExecutorAddress, maxDepth, retryAttempts,
  retryBackoffMs, pollIntervalMs]

def name : Choice → String
  | rpcUrl => "rpc-url"
  | privateKey => "private-key"
  | account => "account"
  | vaultAddress => "vault-address"
  | vaultLiquidationAddress => "vault-liquidation-address"
  | bookAddress => "book-address"
  | baseAsset => "base-asset"
  | minProfit => "min-profit"
  | maxEngagement => "max-engagement"
  | batchExecutorAddress => "batch-executor-address"
  | maxDepth => "max-depth"
  | retryAttempts => "retry-attempts"
  | retryBackoffMs => "retry-backoff-ms"
  | pollIntervalMs => "poll-interval-ms"

/-- The variable of the environment: the name in capitals, with underscores. -/
def variableName (c : Choice) : String :=
  "KEEPER_" ++ String.ofList (c.name.toList.map fun c => if c = '-' then '_' else c.toUpper)

/-- The bits of a number; all other options are texts, which are taken as they are. -/
def bits? : Choice → Option Nat
  | maxDepth | retryBackoffMs | pollIntervalMs => some 64
  | retryAttempts => some 32
  | _ => none

/-- Whether the number of an option is read with either sign before its range is checked. -/
def takesMinus : Choice → Bool
  | retryAttempts => true
  | _ => false

/-- What holds when an option is not given; none for those that are required. -/
def default? : Choice → Option String
  | retryAttempts => some "3"
  | retryBackoffMs => some "500"
  | pollIntervalMs => some "1000"
  | _ => none

/-- Whether an option must be given, by a flag or by its variable. -/
def isRequired : Choice → Bool
  | batchExecutorAddress | maxDepth | retryAttempts | retryBackoffMs | pollIntervalMs => false
  | _ => true

end Choice

namespace CommandLine

def digits? (digits : List Char) : Option Nat :=
  if !digits.isEmpty && digits.all Char.isDigit then some (Decimal.number digits) else none

/-- The number that is given for an option, perhaps with a sign; a minus only suits zero. -/
def number? (c : Choice) (text : String) : Option Nat :=
  match text.toList with
  | '+' :: digits => digits? digits
  | '-' :: digits => if c.takesMinus then (digits? digits).filter (· == 0) else none
  | digits => digits? digits

/-- Whether an option may have a value: any text where texts are due, and else a number of no more
bits than it has. -/
def accepts (c : Choice) (value : String) : Bool :=
  match c.bits? with
  | none => true
  | some bits => (number? c value).any (· < 2 ^ bits)

/-- What has been read so far: what is settled, and the flag that was read last. -/
structure State where
  given : List (Choice × String) := []
  /-- A flag whose value, if it has come, is still to be checked. -/
  pending : Option (Choice × Option String) := none
  deriving DecidableEq, Repr

namespace State

/-- Accept a value that was given for an option, unless the option has one already or the value does
not suit it. -/
def accept (s : State) (c : Choice) (value : String) : Except UsageError State :=
  if (s.given.lookup c).isSome then .error .givenTwice
  else if accepts c value then .ok { s with given := s.given ++ [(c, value)] }
  else .error .badValue

/-- Check the value that is still to be checked, which is due before anything else is read. -/
def settle (s : State) : Except UsageError State :=
  match s.pending with
  | none => .ok s
  | some (_, none) => .error .missingValue
  | some (c, some value) => ({ s with pending := none } : State).accept c value

/-- Answer to a flag that asks for help, unless something was wrong before it. -/
def stop (s : State) (e : UsageError) : Except UsageError State := do
  let _ ← s.settle
  throw e

/-- Read a long flag, with its value if one is attached. -/
def longFlag (s : State) (name : String) (value : Option String) : Except UsageError State :=
  match Choice.all.find? (·.name == name), value with
  | some c, some value => do (← s.settle).accept c value
  | some c, none => do return { ← s.settle with pending := some (c, none) }
  | none, value =>
    if name == "help" || name == "version" then
      if value.isSome then .error .extraValue
      else s.stop (if name == "help" then .help else .version)
    else .error .unknownWord

/-- Read a word that is no flag: a value, if one is due. -/
def plainWord (s : State) (word : String) : Except UsageError State :=
  match s.pending with
  | some (c, none) => .ok { s with pending := some (c, some word) }
  | _ => .error .unknownWord

/-- Read one word: a long flag, one of the two short ones, or a plain word. A single dash is a plain
word. -/
def word (s : State) (text : String) : Except UsageError State :=
  match text.toList with
  | '-' :: '-' :: rest =>
    let name := rest.takeWhile (· != '=')
    let value := match rest.dropWhile (· != '=') with
      | [] => none
      | _ :: value => some (String.ofList value)
    s.longFlag (String.ofList name) value
  | '-' :: 'h' :: _ => s.stop .help
  | '-' :: 'V' :: _ => s.stop .version
  | '-' :: _ :: _ => .error .unknownWord
  | _ => s.plainWord text

/-- Read words from left to right. Two dashes alone end the flags, and no word may follow. -/
def words : State → List String → Except UsageError State
  | s, [] => s.settle
  | s, text :: rest =>
    if text = "--" then if rest.isEmpty then s.settle else .error .unknownWord
    else
      match s.word text with
      | .ok s => s.words rest
      | .error e => .error e

/-- Take what was not given from the environment, in the order of the options; a variable must suit
its option like a value on the command line. -/
def fill (environment : List (String × String)) : State → List Choice → Except UsageError State
  | s, [] => .ok s
  | s, c :: rest =>
    match s.given.lookup c, environment.lookup c.variableName with
    | none, some value =>
      match s.accept c value with
      | .ok s => s.fill environment rest
      | .error e => .error e
    | _, _ => s.fill environment rest

def value? (s : State) (c : Choice) : Option String := (s.given.lookup c).or c.default?

def text (s : State) (c : Choice) : String := (s.value? c).getD ""

def numeral? (s : State) (c : Choice) : Option Nat := (s.value? c).bind (number? c)

/-- All options, with their defaults where nothing was given. -/
def options (s : State) : Options where
  rpcUrl := s.text .rpcUrl
  privateKey := s.text .privateKey
  account := s.text .account
  vaultAddress := s.text .vaultAddress
  vaultLiquidationAddress := s.text .vaultLiquidationAddress
  bookAddress := s.text .bookAddress
  baseAsset := s.text .baseAsset
  minProfit := s.text .minProfit
  maxEngagement := s.text .maxEngagement
  batchExecutorAddress := s.value? .batchExecutorAddress
  maxDepth := s.numeral? .maxDepth
  retryAttempts := (s.numeral? .retryAttempts).getD 0
  retryBackoffMs := (s.numeral? .retryBackoffMs).getD 0
  pollIntervalMs := (s.numeral? .pollIntervalMs).getD 0

end State

/-- Read the words of a command line in an environment: the words first, then the variables, and
last of all whether anything required is missing. -/
def parse (words : List String) (environment : List (String × String)) :
    Except UsageError Options := do
  let s ← ({} : State).words words
  let s ← s.fill environment Choice.all
  if Choice.all.any fun c => c.isRequired && (s.value? c).isNone then throw .missingOption
  return s.options

end CommandLine

end Arbitrage
