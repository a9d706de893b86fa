import Arbitrage.Simulation.Ledger
import Arbitrage.World

/-!
# A simulated chain

Every transaction is mined at once, in the current block, and numbered from one; its number is its
hash. Reads of the vault and waits for receipts can be made to fail.
-/

namespace Arbitrage

/-- A chain that mines what it is sent, at once and in the order of sending. -/
structure SimulatedChain where
  account : Address
  ledger : Ledger
  block : Nat := 1
  receipts : List Receipt := []
  /-- Reads of the vault that are still to fail, each of which counts this down. -/
  failingReads : Nat := 0
  /-- Waits for receipts that are still to fail, each of which counts this down. -/
  failingReceipts : Nat := 0

namespace SimulatedChain

def gas : Nat := 21000

def transactions (c : SimulatedChain) : Nat := c.receipts.length

/-- The hash of the next transaction, which is its number. -/
def nextHash (c : SimulatedChain) : Word := BitVec.ofNat 256 (c.transactions + 1)

/-- The chain after a transaction that left a ledger, or reverted. -/
def mine (c : SimulatedChain) (after : Option Ledger) : SimulatedChain :=
  { c with
    ledger := after.getD c.ledger
    receipts := ⟨c.nextHash, some c.block, gas, after.isSome⟩ :: c.receipts }

/-- Send a call. A call that cannot be encoded is not sent; one that reverts is mined. -/
def broadcast (c : SimulatedChain) (call : Call) :
    Except Halt (Except Failure Word × SimulatedChain) :=
  match call.calldata with
  | .error e => .ok (.error (.submission e), c)
  | .ok _ =>
    match c.ledger.apply c.account call with
    | .ok ledger => .ok (.ok c.nextHash, c.mine (some ledger))
    | .error .reverted => .ok (.ok c.nextHash, c.mine none)
    | .error .impossible => .error .impossible

/-- Read the vault, unless a reading is still to fail. -/
def readVault (c : SimulatedChain) : Except Failure Vault × SimulatedChain :=
  if 0 < c.failingReads then
    (.error (.chain (.transient "injected read failure")),
      { c with failingReads := c.failingReads - 1 })
  else (.ok c.ledger.vault, c)

/-- Wait for a receipt: it is there at once, unless a wait is still to fail or nothing was sent
under the hash. -/
def receipt (c : SimulatedChain) (hash : Word) : Except Failure Receipt × SimulatedChain :=
  let missing : Except Failure Receipt := .error (.chain (.receiptNotFound hash.hex))
  if 0 < c.failingReceipts then (missing, { c with failingReceipts := c.failingReceipts - 1 })
  else
    match c.receipts.find? (·.hash == hash) with
    | some receipt => (.ok receipt, c)
    | none => (missing, c)

/-- Answer from the chain. Only a ledger in an impossible state has no answer. -/
def answer : (query : World.Query) → StateT SimulatedChain (Except Halt) (World.Answer query)
  | .blockNumber => return .ok (← get).block
  | .tokens => return .ok (← get).ledger.tokens
  | .vault => modifyGet readVault
  | .orders => return .ok (← get).ledger.book
  | .balance token owner => return .ok ((← get).ledger.balance token owner)
  | .allowance token owner spender => return .ok ((← get).ledger.allowance token owner spender)
  | .broadcast call => fun c => c.broadcast call
  | .receipt hash => modifyGet fun c => c.receipt hash
  | .sleep _ => return ()
  | .record _ => return ()
  | .enter _ => return ()

end SimulatedChain

end Arbitrage
