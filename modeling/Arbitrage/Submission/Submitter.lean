import Arbitrage.Chain.Persistence
import Arbitrage.Submission.Approval

/-!
# Submitting plans

Before a plan is submitted all of its calls are encoded, so that a plan with an amount that does not
fit sends nothing, and the keeper's own approvals are staged again. In direct mode the steps follow
one by one; the first that fails or reverts ends the submission. In batched mode the approvals that
the batch executor lacks and all steps go into one transaction.
-/

namespace Arbitrage

/-- A submission that succeeded, with the receipts of all transactions that belong to it. -/
structure Submission where
  mode : Mode
  receipts : List Receipt
  /-- Steps of the plan that took effect, which in a batch is all of them at once. -/
  completedSteps : Nat
  deriving DecidableEq, Repr

namespace Submission

def transactions (s : Submission) : Nat := s.receipts.length

/-- The gas of all transactions, counted in 64 bits, so that an absurd total starts again from
zero. -/
def gas (s : Submission) : Nat := (s.receipts.map Receipt.gas).sum % 2 ^ 64

def hashes (s : Submission) : List Word := s.receipts.map Receipt.hash

end Submission

/-- Who submits, to which contracts, in which mode, and with how much patience. -/
structure Submitter where
  account : Address
  tokens : Tokens
  contracts : Contracts
  mode : Mode
  patience : Patience
  deriving DecidableEq, Repr

namespace Submitter

def approvals (s : Submitter) : List Approval := Approval.own s.tokens s.contracts s.mode

/-- The approvals of the account that calls the protocol, be it the keeper or the batch executor. -/
def protocol (s : Submitter) : List Approval := Approval.protocol s.tokens s.contracts

/-- Raise allowances of the keeper, one transaction each, up to the first that fails or reverts. -/
def raise (s : Submitter) : List Approval → Attempt Unit
  | [] => return ()
  | a :: rest => do
    let receipt ← confirm s.patience a.call
    if receipt.success then
      World.record (.allowanceRaised a.token a.spender)
      s.raise rest
    else
      throw (.submission (.approvalFailed a.token a.spender
        ("transaction " ++ receipt.hash.hex ++ " reverted")))

/-- Raise those of the keeper's own allowances that are not at the maximum. -/
def stageOwn (s : Submitter) : Attempt Staging := do
  let (missing, present) ← Approval.split s.account s.approvals
  s.raise missing
  return ⟨missing, present⟩

/-- Raise those of the batch executor's allowances that are not at the maximum, all in one batch. -/
def stageExecutor (s : Submitter) (executor : Address) : Attempt Staging := do
  let (missing, present) ← Approval.split executor s.protocol
  unless missing.isEmpty do
    let receipt ← confirm s.patience (.batch executor [] (missing.map Approval.call))
    unless receipt.success do
      throw (.submission (.batchReverted receipt.hash))
  return ⟨missing, present⟩

/-- Raise every allowance that the mode needs, and report how many were raised and how many were in
place. -/
def stage (s : Submitter) : Attempt Staging := do
  let own ← s.stageOwn
  let staged ← match s.mode with
    | .direct => pure own
    | .batched executor => do
      let rest ← s.stageExecutor executor
      pure ⟨own.written ++ rest.written, own.present ++ rest.present⟩
  World.record (.approvalsStaged staged.written.length staged.present.length s.mode)
  return staged

/-- The approvals that the batch executor lacks, as calls to be made by it; none in direct mode. -/
def missingDownstream (s : Submitter) : Attempt (List Call) :=
  match s.mode with
  | .direct => return []
  | .batched executor => do
    let (missing, _) ← Approval.split executor s.protocol
    return missing.map Approval.call

/-- The calls of a plan, in the order of its path. -/
def calls (s : Submitter) (plan : Plan) : List Call := plan.steps.map (Call.ofStep s.contracts)

/-- Send one step and wait for its receipt, which must tell of success. -/
def sendStep (s : Submitter) (step : Nat) (call : Call) : Attempt Receipt :=
  ExceptT.mk do
    match ← (confirm s.patience call).run with
    | .error e =>
      World.record (.stepFailed step call e)
      return .error (.submission (.stepFailed step step e.message))
    | .ok receipt =>
      if receipt.success then
        World.record (.stepConfirmed step call receipt.hash receipt.gas)
        return .ok receipt
      else
        World.record (.stepReverted step call receipt.hash)
        return .error (.submission (.reverted step receipt.hash))

/-- Send steps one by one, the first being number `step`; none is sent before the receipt of the one
before it. -/
def sendSteps (s : Submitter) : (step : Nat) → List Call → Attempt (List Receipt)
  | _, [] => return []
  | step, call :: calls => do
    let receipt ← s.sendStep step call
    let receipts ← s.sendSteps (step + 1) calls
    return receipt :: receipts

/-- Send everything in one transaction, whose receipt must tell of success. -/
def sendBatch (s : Submitter) (executor : Address) (tokens : List Address) (calls : List Call) :
    Attempt Receipt := do
  let receipt ← confirm s.patience (.batch executor tokens calls)
  if receipt.success then
    World.record (.batchConfirmed receipt.hash receipt.gas)
    return receipt
  else
    World.record (.batchReverted receipt.hash)
    throw (.submission (.batchReverted receipt.hash))

/-- Check that every call can be encoded; the first that cannot is what is wrong. -/
def checkCalls : List Call → Except Failure Unit
  | [] => .ok ()
  | call :: calls =>
    match call.calldata with
    | .ok _ => checkCalls calls
    | .error e => .error (.submission e)

/-- Check that there is something to submit and that all of it can be encoded. -/
def check (s : Submitter) (plan : Plan) : Except Failure Unit :=
  if plan.steps.isEmpty then .error (.submission .emptyPlan) else checkCalls (s.calls plan)

/-- Submit a plan. Nothing is asked of the world before the plan has been checked, and nothing of
the plan is sent before the approvals are in place. -/
def submit (s : Submitter) (plan : Plan) : Attempt Submission := do
  s.check plan
  let _ ← persist s.patience "submit" s.stageOwn
  match s.mode with
  | .direct => do
    let receipts ← s.sendSteps 0 (s.calls plan)
    return ⟨.direct, receipts, receipts.length⟩
  | .batched executor => do
    let approvals ← persist s.patience "submit" s.missingDownstream
    unless approvals.isEmpty do
      World.record (.approvalsPrepended approvals.length)
    let receipt ← s.sendBatch executor plan.tokens (approvals ++ s.calls plan)
    return ⟨.batched executor, [receipt], plan.length⟩

/-- Put a submitter together; it is batched if that is wanted and a batch executor is known. -/
def assemble (account : Option Address) (tokens : Option Tokens) (contracts : Option Contracts)
    (batch : Bool) (patience : Patience) : Attempt Submitter := do
  let some account := account | throw (.settings (.missing "sender"))
  let some tokens := tokens | throw (.settings (.missing "tokens"))
  let some contracts := contracts | throw (.settings (.missing "addresses"))
  let mode := Mode.select contracts batch
  if batch && !mode.isBatched then
    World.record .noBatchExecutor
  return { account, tokens, contracts, mode, patience }

end Submitter

end Arbitrage
