import Arbitrage.Contract.Call

/-!
# Submission modes

A plan reaches the chain directly, one transaction for each step, or batched, all of its calls in
one transaction of the batch executor.
-/

namespace Arbitrage

inductive Mode
  | direct
  | batched (executor : Address)
  deriving DecidableEq, Repr

namespace Mode

/-- Batched when that is wanted and a batch executor is known. -/
def select (contracts : Contracts) (wanted : Bool) : Mode :=
  match contracts.batchExecutor with
  | some executor => if wanted then batched executor else direct
  | none => direct

def isBatched : Mode → Bool
  | direct => false
  | batched _ => true

def text : Mode → String
  | direct => "direct"
  | batched _ => "batched"

end Mode

end Arbitrage
