import Arbitrage.Chain.Receipt
import Arbitrage.Cycle.Selection
import Arbitrage.Settings.Patience
import Arbitrage.Submission.Mode

/-!
# What the keeper reports while it works

Every event has a level, a wording and named details. Addresses are spelled with their checksum,
amounts in full, and durations in whole milliseconds counted in 64 bits.
-/

namespace Arbitrage

/-- How much attention an event asks for: an `error` ends what the keeper was doing, and `debug` is
of interest only to whoever follows a single block. -/
inductive Level
  | error
  | warn
  | info
  | debug
  deriving DecidableEq, Repr

namespace Level

/-- Urgent levels come first, so that a log which shows a level shows every level of smaller
rank. -/
def rank : Level → Nat
  | error => 0
  | warn => 1
  | info => 2
  | debug => 3

end Level

/-- Something worth reporting, with all that its details need: nothing is looked up again when the
event is written. -/
inductive Event
  | retrying (activity : String) (attempt attempts : Nat) (delay : Duration) (error : Failure)
  | blocksSkipped (block skipped : Nat)
  | pollFailed (error : Failure) (delay : Duration)
  | noBatchExecutor
  | allowanceRaised (token spender : Address)
  | approvalsStaged (written present : Nat) (mode : Mode)
  | approvalsPrepended (approvals : Nat)
  | stepFailed (step : Nat) (call : Call) (error : Failure)
  | stepReverted (step : Nat) (call : Call) (hash : Word)
  | stepConfirmed (step : Nat) (call : Call) (hash : Word) (gas : Nat)
  | batchReverted (hash : Word)
  | batchConfirmed (hash : Word) (gas : Nat)
  | started (strategy : Strategy) (mode : Mode)
  | marketUnreadable (block : Nat) (error : Failure)
  | feedStale (block : Nat)
  | snapshotTaken (block edges orders : Nat) (balance : Wad)
  | cyclesFound (base : AssetId) (maxDepth edges cycles : Nat)
  | nearMiss (block : Nat) (route : String) (candidate : Candidate)
  | noProfitableCycle (block candidates : Nat) (reason : Rejection)
  | noCycles (block : Nat)
  | submitting (block : Nat) (route : String) (plan : Plan) (candidates : Nat) (mode : Mode)
  | executed (block : Nat) (hashes : List Word) (gas : Nat) (profit : Wad)
  | planExecuted (plan : PlanReport)
  | submissionFailed (plan : PlanReport) (error : Failure)
  | transactionSent (hash : Word) (call : Call)
  | ordersRead (lastId live : Nat)

namespace Event

def level : Event → Level
  | submissionFailed .. => .error
  | retrying .. | pollFailed .. | stepFailed .. | stepReverted .. | batchReverted ..
  | marketUnreadable .. => .warn
  | blocksSkipped .. | noBatchExecutor | approvalsStaged .. | approvalsPrepended .. | started ..
  | feedStale .. | nearMiss .. | submitting .. | executed .. | planExecuted .. => .info
  | allowanceRaised .. | stepConfirmed .. | batchConfirmed .. | snapshotTaken .. | cyclesFound ..
  | noProfitableCycle .. | noCycles .. | transactionSent .. | ordersRead .. => .debug

def message : Event → String
  | retrying .. => "Transient chain error, retrying"
  | blocksSkipped .. => "Skipped blocks that arrived during the previous cycle"
  | pollFailed .. => "Block poll failed"
  | noBatchExecutor => "No batch executor configured, submitting directly"
  | allowanceRaised .. => "Allowance raised"
  | approvalsStaged .. => "Approvals staged"
  | approvalsPrepended .. => "Prepending executor approvals to batch"
  | stepFailed .. => "Step failed, aborting plan"
  | stepReverted .. => "Step reverted, aborting plan"
  | stepConfirmed .. => "Step confirmed"
  | batchReverted .. => "Batch reverted"
  | batchConfirmed .. => "Batch confirmed"
  | started .. => "Keeper initialized"
  | marketUnreadable .. => "Market read failed, skipping block"
  | feedStale .. => "Price feed stale, skipping block"
  | snapshotTaken .. => "Market snapshot built"
  | cyclesFound .. => "Cycle enumeration completed"
  | nearMiss .. => "Best candidate rejected"
  | noProfitableCycle .. => "No profitable cycle"
  | noCycles .. => "No cycles at base asset"
  | submitting .. => "Submitting arbitrage plan"
  | executed .. => "Arbitrage executed"
  | planExecuted .. => "Executed plan"
  | submissionFailed .. => "Arbitrage submission failed, abandoning cycle"
  | transactionSent .. => "Transaction sent"
  | ordersRead .. => "Book orders read"

def number (n : Nat) : String := toString n

/-- A duration in the details of an event: whole milliseconds, rounded down and counted in 64
bits. -/
def millis (d : Duration) : String := toString (d.millis % 2 ^ 64)

def hashList (hashes : List Word) : String :=
  "[" ++ ", ".intercalate (hashes.map Word.hex) ++ "]"

/-- The details of an event under the names that a log gives them, in the order in which they are
written. -/
def details : Event → List (String × String)
  | retrying activity attempt attempts delay error =>
    [("phase", activity), ("attempt", number attempt), ("max_attempts", number attempts),
      ("delay_ms", millis delay), ("error", error.message)]
  | blocksSkipped block skipped => [("block_number", number block), ("skipped", number skipped)]
  | pollFailed error delay => [("error", error.message), ("delay_ms", millis delay)]
  | noBatchExecutor => []
  | allowanceRaised token spender => [("token", token.checksum), ("spender", spender.checksum)]
  | approvalsStaged written present mode =>
    [("written", number written), ("already_set", number present), ("mode", mode.text)]
  | approvalsPrepended approvals => [("approvals", number approvals)]
  | stepFailed step call error =>
    [("step", number step), ("call", call.text), ("error", error.message)]
  | stepReverted step call hash =>
    [("step", number step), ("call", call.text), ("tx_hash", hash.hex)]
  | stepConfirmed step call hash gas =>
    [("step", number step), ("call", call.text), ("tx_hash", hash.hex), ("gas_used", number gas)]
  | batchReverted hash => [("tx_hash", hash.hex)]
  | batchConfirmed hash gas => [("tx_hash", hash.hex), ("gas_used", number gas)]
  | started strategy mode =>
    [("base_asset", strategy.base.checksum), ("min_profit", strategy.minProfit.text),
      ("max_engagement", strategy.maxEngagement.text), ("max_depth", number strategy.maxDepth),
      ("mode", mode.text)]
  | marketUnreadable block error => [("block_number", number block), ("error", error.message)]
  | feedStale block => [("block_number", number block)]
  | snapshotTaken block edges orders balance =>
    [("block_number", number block), ("edges", number edges), ("orders", number orders),
      ("base_balance", balance.text)]
  | cyclesFound base maxDepth edges cycles =>
    [("base", number base), ("max_depth", number maxDepth), ("edges", number edges),
      ("cycles", number cycles)]
  | nearMiss block route candidate =>
    [("block_number", number block), ("route", route), ("engagement", candidate.engagement.text),
      ("profit", candidate.profit.text), ("reason", candidate.reason.text)]
  | noProfitableCycle block candidates reason =>
    [("block_number", number block), ("candidates", number candidates), ("reason", reason.text)]
  | noCycles block => [("block_number", number block)]
  | submitting block route plan candidates mode =>
    [("block_number", number block), ("route", route), ("engagement", plan.engagement.text),
      ("output", plan.output.text), ("profit", plan.profit.text),
      ("candidates", number candidates), ("mode", mode.text)]
  | executed block hashes gas profit =>
    [("block_number", number block), ("transactions", number hashes.length),
      ("tx_hashes", hashList hashes), ("gas_used", number gas), ("profit", profit.text)]
  | planExecuted plan => [("plan", plan.toJson.text)]
  | submissionFailed plan error =>
    [("block_number", number plan.block), ("route", plan.route), ("error", error.message)]
  | transactionSent hash call => [("tx_hash", hash.hex), ("call", call.text)]
  | ordersRead lastId live => [("last_offer_id", number lastId), ("live_orders", number live)]

end Event

end Arbitrage
