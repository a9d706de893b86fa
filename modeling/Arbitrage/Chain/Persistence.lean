import Arbitrage.World

/-!
# Persistence

Work that fails in a way that may pass is tried again, with growing pauses, until its patience is
exhausted. Sending a transaction is never repeated: only the wait for its receipt is.
-/

namespace Arbitrage

/-- Try again up to `left` times; `retry` is the number of pauses made so far. Only a failure that
may pass is tried again. Before each retry the failure is reported, and the pause that it leads
to. -/
def persistFrom {α : Type} (patience : Patience) (activity : String) (work : Attempt α) :
    (left retry : Nat) → Attempt α
  | 0, _ => work
  | left + 1, retry =>
    ExceptT.mk do
      match ← work.run with
      | .ok a => return .ok a
      | .error e =>
        if e.isTransient then
          World.record (.retrying activity (retry + 1) patience.attempts (patience.delay retry) e)
          World.sleep (patience.delay retry)
          persistFrom patience activity work left (retry + 1)
        else
          return .error e

/-- Try until success, a failure that will not pass, or the last attempt. The result is that of the
last attempt. There is a first attempt whatever the patience says. -/
def persist {α : Type} (patience : Patience) (activity : String) (work : Attempt α) : Attempt α :=
  persistFrom patience activity work (patience.attempts - 1) 0

/-- Send a transaction once, and wait for its receipt with patience. It is only the wait that is
repeated: a transaction that was sent again could take effect twice. -/
def confirm (patience : Patience) (call : Call) : Attempt Receipt := do
  let hash ← World.broadcast call
  persist patience "submit" (World.receipt hash)

end Arbitrage
