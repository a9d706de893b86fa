import Arbitrage.Natural

/-!
# Durations, and how long to keep trying

Durations are counted in nanoseconds and stop at the largest that 64 bits of seconds can express.
A patience is a number of attempts and the pause after the first; every further pause is twice the
one before, as far as a factor of 32 bits can tell.
-/

namespace Arbitrage

/-- A span of time in nanoseconds, the finest that is told apart. -/
structure Duration where
  nanos : Nat
  deriving DecidableEq, Repr

namespace Duration

def second : Nat := 1000000000

def millisecond : Nat := 1000000

/-- The longest duration: the most seconds that 64 bits can count, and all but a nanosecond of
another. -/
def longest : Duration := ⟨2 ^ 64 * second - 1⟩

def ofMillis (n : Nat) : Duration := ⟨n * millisecond⟩

def ofSeconds (n : Nat) : Duration := ⟨n * second⟩

def seconds (d : Duration) : Nat := d.nanos / second

def subsecond (d : Duration) : Nat := d.nanos % second

def millis (d : Duration) : Nat := d.nanos / millisecond

/-- A multiple of a duration, but no more than the longest. -/
def scale (d : Duration) (n : Nat) : Duration := ⟨min (d.nanos * n) longest.nanos⟩

end Duration

/-- How often to try, and how long to wait in between. -/
structure Patience where
  attempts : Nat
  /-- The pause before the second attempt, which all further pauses are multiples of. -/
  pause : Duration
  deriving DecidableEq, Repr

namespace Patience

/-- A policy of so many attempts; there is always a first one, even where none are asked for. -/
def make (attempts : Nat) (pause : Duration) : Patience := ⟨max attempts 1, pause⟩

def standard : Patience := make 3 (.ofMillis 500)

/-- Powers of two up to the largest 32-bit number, which takes the place of all further ones. -/
def factor (retry : Nat) : Nat := if retry < 32 then 2 ^ retry else 2 ^ 32 - 1

/-- The pause before retry number `retry`, counted from zero: it doubles from one to the next, as
far as factor and duration go. -/
def delay (p : Patience) (retry : Nat) : Duration := p.pause.scale (factor retry)

end Patience

end Arbitrage
