import Arbitrage.Chain.Receipt
import Arbitrage.Event
import Arbitrage.Process

/-!
# The world around the keeper

The keeper reads the markets and its allowances, sends transactions and waits for their receipts.
It also sleeps, reports events, and announces the phase that it enters. Whatever concerns the chain
may fail; the rest does not.
-/

namespace Arbitrage

/-- Where the keeper is in its work on a block; the phases follow one another, and some may be left
out. -/
inductive Phase
  | idle
  | snapshot
  | enumerate
  | evaluate
  | submit
  | settle
  deriving DecidableEq, Repr

def Phase.text : Phase → String
  | idle => "idle"
  | snapshot => "snapshot"
  | enumerate => "enumerate"
  | evaluate => "evaluate"
  | submit => "submit"
  | settle => "settle"

namespace World

/-- What the keeper asks of the world. Reports, pauses and phases are questions too, so that they
have their place in a dialogue. -/
inductive Query
  | blockNumber
  | tokens
  | vault
  /-- Every order on the book, live or not, in no order that the keeper relies on. -/
  | orders
  | balance (token owner : Address)
  | allowance (token owner spender : Address)
  /-- Send one transaction, and learn its hash; what became of it is another question. -/
  | broadcast (call : Call)
  /-- Wait for a transaction to be mined, for as long as the world is willing to wait. -/
  | receipt (hash : Word)
  | sleep (delay : Duration)
  | record (event : Event)
  | enter (phase : Phase)

/-- The kinds of answers. Whatever has to get through to the chain may fail instead. -/
def Answer : Query → Type
  | .blockNumber => Except Failure Nat
  | .tokens => Except Failure Tokens
  | .vault => Except Failure Vault
  | .orders => Except Failure (List Order)
  | .balance _ _ => Except Failure Wad
  | .allowance _ _ _ => Except Failure Word
  | .broadcast _ => Except Failure Word
  | .receipt _ => Except Failure Receipt
  | .sleep _ | .record _ | .enter _ => Unit

end World

def World : Interface := ⟨World.Query, World.Answer⟩

/-- Work in the world, which asks its questions one after the other. -/
abbrev Work := Process World

/-- Work in the world that may fail, and then ends with the failure. -/
abbrev Attempt := ExceptT Failure Work

namespace World

def blockNumber : Attempt Nat := Process.request World .blockNumber

def tokens : Attempt Tokens := Process.request World .tokens

def vault : Attempt Vault := Process.request World .vault

def orders : Attempt (List Order) := Process.request World .orders

def balance (token owner : Address) : Attempt Wad := Process.request World (.balance token owner)

def allowance (token owner spender : Address) : Attempt Word :=
  Process.request World (.allowance token owner spender)

def broadcast (call : Call) : Attempt Word := Process.request World (.broadcast call)

def receipt (hash : Word) : Attempt Receipt := Process.request World (.receipt hash)

def sleep (delay : Duration) : Work Unit := Process.request World (.sleep delay)

def record (event : Event) : Work Unit := Process.request World (.record event)

def enter (phase : Phase) : Work Unit := Process.request World (.enter phase)

/-- Read all that a snapshot needs: the vault, then the book, then the account's holding of the base
asset. The first failure ends the reading. -/
def market (block : Nat) (account base : Address) : Attempt MarketState := do
  return { block, vault := ← vault, orders := ← orders, balance := ← balance base account }

end World

end Arbitrage
