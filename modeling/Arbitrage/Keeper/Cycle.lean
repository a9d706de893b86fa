import Arbitrage.Cycle.Search
import Arbitrage.Submission.Submitter

/-!
# The work on one block

For every block the keeper takes a snapshot of the market, enumerates the cycles at its base asset,
chooses the best plan and submits it:

```text
idle → snapshot → enumerate → evaluate ─┬─→ idle
                                        └─→ submit → settle → idle
```

What goes wrong with one block is an outcome of that block. Only a market that cannot be turned into
a snapshot is a failure of the keeper, a stale price feed apart.
-/

namespace Arbitrage

/-- Why a block was not looked at; neither reason says anything about the blocks that follow. -/
inductive Skip
  | staleFeed
  | unavailable (reason : String)
  deriving DecidableEq, Repr

/-- What came of one block. Whatever went wrong after the snapshot is told here, and does not stop
the keeper. -/
inductive Outcome
  | skipped (reason : Skip)
  | noOpportunity (candidates : Nat) (bestRejected : Option Candidate)
  /-- A plan was submitted and every transaction succeeded. -/
  | executed (plan : PlanReport) (submission : Submission)
  /-- A plan was chosen but its submission failed; what had been sent by then stays sent. -/
  | failed (plan : PlanReport) (reason : String)
  deriving DecidableEq, Repr

def Outcome.isExecuted : Outcome → Bool
  | executed .. => true
  | _ => false

/-- The keeper between two blocks. Of all it has seen it remembers the last block only: every block
starts from a snapshot of its own. -/
structure Keeper where
  submitter : Submitter
  strategy : Strategy
  tokens : Tokens
  patience : Patience
  last : Option Nat := none
  deriving DecidableEq, Repr

namespace Keeper

def account (k : Keeper) : Address := k.submitter.account

/-- Put a keeper together from parts that may be missing; the first missing one is named, and the
base asset must be one of the tokens. -/
def assemble (reader : Bool) (submitter : Option Submitter) (strategy : Option Strategy)
    (tokens : Option Tokens) (patience : Patience) : Except SettingsError Keeper := do
  unless reader do throw (.missing "reader")
  let some submitter := submitter | throw (.missing "executor")
  let some strategy := strategy | throw (.missing "config")
  let some tokens := tokens | throw (.missing "tokens")
  if tokens.contains strategy.base then
    return { submitter, strategy, tokens, patience }
  else
    throw (.invalid "base_asset" (strategy.base.checksum ++ " is not gem, skr or sai"))

/-- Stage all approvals before the first block, so that the submission of a plan usually finds them
in place. -/
def start (k : Keeper) : Attempt Staging := do
  World.record (.started k.strategy k.submitter.mode)
  k.submitter.stage

/-- Turn what was read into a snapshot. A stale price feed only skips the block, and every other
failure is one of the keeper. -/
def takeSnapshot (k : Keeper) (state : MarketState) : Attempt (Except Skip Snapshot) :=
  match Snapshot.take state k.strategy k.tokens with
  | .ok snapshot => do
    World.record (.snapshotTaken state.block snapshot.graph.edges.size
      (Snapshot.orderEdges k.tokens state.orders).length state.balance)
    return .ok snapshot
  | .error .staleFeed => do
    World.record (.feedStale state.block)
    return .error .staleFeed
  | .error e => throw (.market e)

/-- Read the market and take a snapshot. The reading is retried as a whole; a market that cannot be
read after that skips the block. -/
def snapshot (k : Keeper) (block : Nat) : Attempt (Except Skip Snapshot) :=
  ExceptT.mk do
    match ← (persist k.patience "snapshot"
        (World.market block k.account k.strategy.base)).run with
    | .error e =>
      World.record (.marketUnreadable block e)
      return .ok (.error (.unavailable e.message))
    | .ok state => (k.takeSnapshot state).run

/-- Enumerate the cycles at the base asset, and report how many there are. -/
def enumerate (k : Keeper) (snapshot : Snapshot) : Work (List Path) := do
  let cycles := snapshot.graph.cycles snapshot.base k.strategy.maxDepth
  World.record (.cyclesFound snapshot.base k.strategy.maxDepth snapshot.graph.edges.size
    cycles.length)
  return cycles

/-- Report that no plan is worth submitting: a candidate that gains too little is a near miss and
worth telling, every other one is told only to whoever looks closely. -/
def reportRejection (block : Nat) (snapshot : Snapshot) (evaluation : Evaluation) :
    Work Unit :=
  match evaluation.bestRejected with
  | none => World.record (.noCycles block)
  | some candidate =>
    match candidate.reason with
    | .belowMinProfit _ =>
      World.record (.nearMiss block (snapshot.graph.describe candidate.path) candidate)
    | reason => World.record (.noProfitableCycle block evaluation.candidates reason)

/-- Submit a plan, and turn the result into an outcome. The keeper settles whether or not the
submission succeeded. -/
def execute (k : Keeper) (plan : Plan) (report : PlanReport) : Work Outcome := do
  World.enter .submit
  let result ← (k.submitter.submit plan).run
  World.enter .settle
  match result with
  | .ok submission =>
    World.record (.executed report.block submission.hashes submission.gas report.profit)
    World.record (.planExecuted report)
    return .executed report submission
  | .error e =>
    World.record (.submissionFailed report e)
    return .failed report e.message

/-- Choose the best plan of a snapshot and submit it, if there is one. -/
def trade (k : Keeper) (block : Nat) (snapshot : Snapshot) : Work Outcome := do
  World.enter .enumerate
  let cycles ← k.enumerate snapshot
  World.enter .evaluate
  let evaluation := (Sizing.ofSnapshot k.strategy snapshot).evaluate snapshot.graph cycles
  match evaluation.best with
  | none =>
    reportRejection block snapshot evaluation
    return .noOpportunity evaluation.candidates evaluation.bestRejected
  | some plan =>
    World.record (.submitting block (snapshot.graph.describe plan.path) plan evaluation.candidates
      k.submitter.mode)
    k.execute plan (plan.report block)

/-- The way from a new block to its outcome; it ends before the phase of enumeration when the block
is skipped. -/
def cycle (k : Keeper) (block : Nat) : Attempt Outcome := do
  World.enter .snapshot
  match ← k.snapshot block with
  | .error reason => return .skipped reason
  | .ok snapshot => k.trade block snapshot

/-- Work on one block, from idle to idle. The block counts as worked on whatever came of it, so that
it is never tried again. -/
def processBlock (k : Keeper) (block : Nat) : Work (Except Failure Outcome × Keeper) := do
  let outcome ← (k.cycle block).run
  World.enter .idle
  return (outcome, { k with last := some block })

end Keeper

end Arbitrage
