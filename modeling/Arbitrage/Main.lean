import Arbitrage.Settings.CommandLine
import Arbitrage.Signing.Key
import Arbitrage.Url

/-!
# The command

Reads the options from the command line and the environment, checks them, and tells what the keeper
would run with. Exits with 0 if they are in order, and otherwise with the code of what is wrong.

This is where the readers that the check takes as given are filled in.
-/

namespace Arbitrage.Main

/-- The variables of the environment that hold options; a variable that is not set leaves its option
to the command line. -/
def environment : IO (List (String × String)) :=
  Choice.all.filterMapM fun c => do
    return (← IO.getEnv c.variableName).map fun value => (c.variableName, value)

/-- One line of the help: the option, its variable, and its default or that it is required. -/
def helpLine (c : Choice) : String :=
  let extra := match c.default? with
    | some value => " [default: " ++ value ++ "]"
    | none => if c.isRequired then " (required)" else ""
  "      --" ++ c.name ++ " <VALUE>  [env: " ++ c.variableName ++ "]" ++ extra

def help : List String :=
  ["Single-Collateral Dai arbitrage keeper", "", "Usage: arbitrage-keeper [OPTIONS]", "",
    "Options:"] ++ Choice.all.map helpLine

/-- What is wrong with a command line, in the words that the user reads. -/
def complaint : UsageError → String
  | .help | .version => ""
  | .unknownWord => "error: unexpected argument found"
  | .missingValue => "error: a value is required for an option but none was supplied"
  | .extraValue => "error: unexpected value for an option"
  | .badValue => "error: invalid value for an option"
  | .givenTwice => "error: an option cannot be used multiple times"
  | .missingOption => "error: the required options were not all provided"

/-- Answer a command line that is not run: with the help or the version if it asks for them, and
else with what is wrong. -/
def answerUsage (e : UsageError) : IO UInt32 := do
  match e with
  | .help => for line in help do IO.println line
  | .version => IO.println "arbitrage-keeper"
  | e => IO.eprintln (complaint e)
  return e.exitCode.toUInt32

/-- What the keeper runs with, one line a setting; the signing key is not shown. -/
def summary (s : Settings Url SigningKey) : List String := [
  "node: " ++ s.url.text,
  "account: " ++ s.account.checksum,
  "vault: " ++ s.contracts.tub.checksum,
  "liquidator: " ++ s.contracts.tap.checksum,
  "book: " ++ s.contracts.otc.checksum,
  "batch executor: " ++ (s.contracts.batchExecutor.map Address.checksum).getD "none",
  "base asset: " ++ s.baseAsset,
  "minimum profit: " ++ s.minProfit.text,
  "maximum engagement: " ++ s.maxEngagement.text,
  "longest cycle: " ++ toString s.maxDepth]

/-- Check options and tell what comes of it, with the readers of addresses of nodes and of keys
filled in. -/
def answerOptions (o : Options) : IO UInt32 := do
  match o.check Url.reader SigningKey.signers with
  | .ok settings =>
    for line in summary settings do IO.println line
    return 0
  | .error e =>
    let failure := Failure.settings e
    IO.eprintln failure.message
    return failure.exitCode.toUInt32

end Arbitrage.Main

def main (words : List String) : IO UInt32 := do
  match Arbitrage.CommandLine.parse words (← Arbitrage.Main.environment) with
  | .ok options => Arbitrage.Main.answerOptions options
  | .error e => Arbitrage.Main.answerUsage e
