import Arbitrage.World

/-!
# Sources of new blocks

A source is asked again and again. Each time it tells of a new block, fails, or has nothing to tell
yet. The poller is a source that asks for the newest block and tells of those that are newer than
all before; the blocks passed over in between are counted, not told.
-/

namespace Arbitrage

/-- News of a block, and of how many blocks were passed over to reach it. Such blocks are counted
but never worked on. -/
structure Tick where
  block : Nat
  skipped : Nat := 0
  deriving DecidableEq, Repr

/-- Ask a source once. It comes back with a block, with a failure, or with nothing if there was no
news yet, and with the source as it is afterwards. -/
abbrev BlockSource (σ : Type) := σ → Work (Option (Except Failure Tick) × σ)

namespace BlockSource

/-- A source that has its news at hand. Once they are used up it is out of reach, which is a failure
that does not pass. -/
def ofList : BlockSource (List (Except Failure Tick))
  | [] => return (some (.error (.chain (.unreachable "script exhausted"))), [])
  | news :: rest => return (some news, rest)

end BlockSource

/-- A source that polls the chain for its newest block, and remembers which one it has told of. -/
structure Poller where
  /-- The pause before another poll when there is nothing new. -/
  interval : Duration
  /-- The last block told of. -/
  last : Option Nat := none
  deriving DecidableEq, Repr

namespace Poller

/-- The news in the number of the newest block. There is none in a number that is no newer than the
last one told of; the first number of all passes over nothing. -/
def tick? (last : Option Nat) (head : Nat) : Option Tick :=
  match last with
  | none => some ⟨head, 0⟩
  | some last => if head ≤ last then none else some ⟨head, head - last - 1⟩

/-- Take note of the number of the newest block, and tell of it if it is news. -/
def observe (p : Poller) (head : Nat) : Option Tick × Poller :=
  match tick? p.last head with
  | some tick => (some tick, { p with last := some head })
  | none => (none, p)

/-- Poll once. If there is nothing new, a pause follows; if blocks were passed over, that is
reported. A failure leaves the poller as it is. -/
def poll : BlockSource Poller := fun p => do
  match ← World.blockNumber.run with
  | .error e => return (some (.error e), p)
  | .ok head =>
    match p.observe head with
    | (none, p) =>
      World.sleep p.interval
      return (none, p)
    | (some tick, p) =>
      if 0 < tick.skipped then World.record (.blocksSkipped tick.block tick.skipped)
      return (some (.ok tick), p)

/-- Poll at most `polls` times, until there is something to tell. A keeper polls on and on; the
bound makes the loop end, and whatever is proved of it holds for every bound. -/
def next : (polls : Nat) → BlockSource Poller
  | 0, p => return (none, p)
  | polls + 1, p => do
    match ← poll p with
    | (none, p) => next polls p
    | (some news, p) => return (some news, p)

end Poller

end Arbitrage
