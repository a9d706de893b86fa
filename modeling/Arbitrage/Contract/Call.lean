import Arbitrage.Contract.Abi
import Arbitrage.Contract.Selector
import Arbitrage.Cycle.Plan

/-!
# Contract calls

A call is one action at a target, or a batch: the batch executor pulls some tokens from its caller,
runs the invocations in order, and returns every balance. Each step of a plan is one call:

| edge  | target           | action            | amount             |
|-------|------------------|-------------------|--------------------|
| join  | vault            | `join(wad)`       | shares coming out  |
| exit  | vault            | `exit(wad)`       | shares going in    |
| boom  | liquidator       | `boom(wad)`       | shares going in    |
| bust  | liquidator       | `bust(wad)`       | shares coming out  |
| order | order book       | `take(id, wad)`   | what the order pays |

The data of a call can be written only if its amounts fit their on-chain integers: 256 bits, and
128 for the quantity of a take.
-/

namespace Arbitrage

/-- The contracts that the keeper talks to. The one that executes batches may be missing, and then
there are no batches. -/
structure Contracts where
  /-- The vault: join, exit, and the addresses of the tokens and of the price feed. -/
  tub : Address
  /-- The liquidator: boom and bust. -/
  tap : Address
  /-- The order book. -/
  otc : Address
  batchExecutor : Option Address
  deriving DecidableEq, Repr

/-- What a call does at its target. The four exchanges of the vault name the number of shares that
they are about, whichever side the shares are on; a take names what is wanted of the order. -/
inductive Action
  | approve (spender : Address) (amount : Word)
  | join (wad : Wad)
  | exit (wad : Wad)
  | boom (wad : Wad)
  | bust (wad : Wad)
  | take (id : OrderId) (quantity : Wad)
  deriving DecidableEq, Repr

/-- A call of a contract, or a batch of such calls that is handed to the batch executor with the
tokens to be used in it. Batches may be nested. -/
inductive Call
  | single (target : Address) (action : Action)
  | batch (executor : Address) (tokens : List Address) (invocations : List Call)
  deriving Repr

namespace Action

/-- An amount as an on-chain integer. One that takes more than 256 bits cannot be sent. -/
def encodeWad (wad : Wad) : Except SubmissionError Word :=
  match wad.toWord? with
  | .ok w => .ok w
  | .error e => .error (.unencodable wad.text e.message)

/-- The quantity of a take, for which the book has 128 bits. -/
def encodeQuantity (quantity : Wad) : Except SubmissionError (BitVec 128) := do
  let w ← encodeWad quantity
  match Word.toHalf? w with
  | .ok half => .ok half
  | .error e => .error (.unencodable quantity.text e.message)

/-- The data of a call whose only argument is an amount. -/
def amountData (selector : Bytes) (wad : Wad) : Except SubmissionError Bytes := do
  let w ← encodeWad wad
  return selector ++ Abi.tuple [.static (Abi.word w.toNat)]

/-- The data of an action: its selector and its arguments. It fails if an amount does not fit its
argument. -/
def calldata : Action → Except SubmissionError Bytes
  | approve spender amount =>
    .ok (Selector.approve ++
      Abi.tuple [.static (Abi.address spender), .static (Abi.word amount.toNat)])
  | join wad => amountData Selector.join wad
  | exit wad => amountData Selector.exit wad
  | boom wad => amountData Selector.boom wad
  | bust wad => amountData Selector.bust wad
  | take id quantity => do
    let half ← encodeQuantity quantity
    return Selector.take ++
      Abi.tuple [.static (Word.toBytes id.word), .static (Abi.word half.toNat)]

def text : Action → String
  | approve spender _ => "approve(" ++ spender.hex ++ ")"
  | join wad => "join(" ++ wad.text ++ ")"
  | exit wad => "exit(" ++ wad.text ++ ")"
  | boom wad => "boom(" ++ wad.text ++ ")"
  | bust wad => "bust(" ++ wad.text ++ ")"
  | take id quantity => "take(" ++ id.text ++ ", " ++ quantity.text ++ ")"

/-- The action of one step of a plan, and the contract at which it is done. Joining and exiting are
done at the vault, boom and bust at the liquidator, and an order is taken at the book for what it
pays. -/
def ofStep (contracts : Contracts) (step : Step) : Address × Action :=
  match step.edge.terms with
  | .fixedPrice .join _ _ => (contracts.tub, join step.amountOut)
  | .fixedPrice .exit _ _ => (contracts.tub, exit step.amountIn)
  | .fixedPrice .boom _ _ => (contracts.tap, boom step.amountIn)
  | .fixedPrice .bust _ _ => (contracts.tap, bust step.amountOut)
  | .order id _ _ => (contracts.otc, take id step.amountOut)

end Action

namespace Call

/-- The contract called. A batch is a call of its executor. -/
def target : Call → Address
  | single target _ => target
  | batch executor _ _ => executor

/-- Allow a spender to pull up to some amount of a token of the caller. -/
def approve (token spender : Address) (amount : Word) : Call :=
  single token (.approve spender amount)

/-- The call that performs one step of a plan. -/
def ofStep (contracts : Contracts) (step : Step) : Call :=
  single (Action.ofStep contracts step).1 (Action.ofStep contracts step).2

/-- Whether a call is an approval. -/
def isApproval : Call → Bool
  | single _ (.approve _ _) => true
  | _ => false

/-- The data of a batch, given the targets and the data of its invocations: an array of tokens, and
an array of pairs of an address and a byte string. -/
def batchData (tokens : List Address) (invocations : List (Address × Bytes)) : Bytes :=
  Selector.execute ++ Abi.tuple [
    .dynamic (Abi.array (tokens.map fun token => .static (Abi.address token))),
    .dynamic (Abi.array (invocations.map fun (target, data) =>
      .dynamic (Abi.tuple [.static (Abi.address target), .dynamic (Abi.bytes data)])))]

mutual

/-- The data of a call. A batch has data only if every call within it has, and else the first error
among them. -/
def calldata : Call → Except SubmissionError Bytes
  | single _ action => action.calldata
  | batch _ tokens invocations =>
    match invocationData invocations with
    | .ok encoded => .ok (batchData tokens encoded)
    | .error error => .error error

/-- The targets and the data of some calls, in order, or the error of the first that has no data. -/
def invocationData : List Call → Except SubmissionError (List (Address × Bytes))
  | [] => .ok []
  | call :: calls =>
    match calldata call with
    | .error error => .error error
    | .ok data =>
      match invocationData calls with
      | .error error => .error error
      | .ok rest => .ok ((call.target, data) :: rest)

end

def text : Call → String
  | single _ action => action.text
  | batch _ _ invocations => "execute(" ++ toString invocations.length ++ " calls)"

end Call

end Arbitrage
