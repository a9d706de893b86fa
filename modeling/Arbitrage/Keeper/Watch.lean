import Arbitrage.Chain.BlockSource
import Arbitrage.Keeper.Cycle

/-!
# Following the chain

The keeper works on every block that its source tells of, unless it is no newer than the last one
worked on. When the source fails in a way that may pass, the keeper pauses and asks again, longer
with every failure in a row up to the seventh; it stops at any other failure.
-/

namespace Arbitrage

/-- A keeper that follows a source of blocks, with the state `σ` in which the source was left. -/
structure Watch (σ : Type) where
  keeper : Keeper
  source : σ
  /-- Failures of the source in a row, counted in 32 bits; the count starts again with every block
  that the source tells of. -/
  failures : UInt32 := 0

namespace Watch

variable {σ : Type}

/-- Pauses grow up to this many failures in a row, whatever the count says. -/
def mostFailures : Nat := 6

/-- The pause after a failure of the source: the delay of the keeper's patience for the failures
counted before this one. -/
def pause (w : Watch σ) : Duration := w.keeper.patience.delay (min w.failures.toNat mostFailures)

/-- Whether a block is newer than the last one worked on; before the first block every block is
new. -/
def isNew (w : Watch σ) (block : Nat) : Bool := w.keeper.last.all (· < block)

/-- Work on the block that a source told of. The source is working again, so its failures are
forgotten even when the block is not new. -/
def work (w : Watch σ) (block : Nat) : Work (Option Failure × Watch σ) := do
  let w := { w with failures := 0 }
  if w.isNew block then
    let (outcome, keeper) ← w.keeper.processBlock block
    let w := { w with keeper }
    match outcome with
    | .ok _ => return (none, w)
    | .error e => return (some e, w)
  else
    return (none, w)

/-- Ask the source once and act on its answer. A failure that may pass is reported and followed by a
pause; any other ends the watch. -/
def step (next : BlockSource σ) (w : Watch σ) : Work (Option Failure × Watch σ) := do
  let (news, source) ← next w.source
  let w := { w with source }
  match news with
  | none => return (none, w)
  | some (.ok tick) => w.work tick.block
  | some (.error e) =>
    if e.isTransient then
      World.record (.pollFailed e w.pause)
      World.sleep w.pause
      return (none, { w with failures := w.failures + 1 })
    else
      return (some e, w)

/-- Ask the source at most `polls` times, until a failure ends the watch; a watch without end is one
that is followed for every number of polls. -/
def follow (next : BlockSource σ) : (polls : Nat) → Watch σ → Work (Option Failure × Watch σ)
  | 0, w => return (none, w)
  | polls + 1, w => do
    match ← w.step next with
    | (some e, w) => return (some e, w)
    | (none, w) => follow next polls w

end Watch

end Arbitrage
