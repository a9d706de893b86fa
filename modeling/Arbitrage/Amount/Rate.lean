import Arbitrage.Amount.Basic

/-!
# Exchange rates

A rate is an exact fraction, never reduced. Applying it rounds down once, so a chain of applications
never overstates what comes out; `maxInput?` is the largest amount whose exact image stays within a
limit.
-/

namespace Arbitrage

structure Rate where
  numerator : Nat
  denominator : Nat
  deriving DecidableEq, Repr

namespace Rate

/-- The fraction of two numbers, unless the second is zero. It is not reduced. -/
def ofFraction? (numerator denominator : Nat) : Option Rate :=
  if denominator = 0 then none else some ⟨numerator, denominator⟩

def unity : Rate := ⟨1, 1⟩

/-- The rate of a price in wads: so many units come out for one unit that goes in. -/
def ofPrice (price : Wad) : Rate := ⟨price.raw, Scale.wad.unit⟩

def isZero (r : Rate) : Bool := r.numerator == 0

/-- First one rate and then another. The product is exact, so nothing is rounded on the way along a
path. -/
def compose (r q : Rate) : Rate := ⟨r.numerator * q.numerator, r.denominator * q.denominator⟩

/-- The image of an amount, rounded down to a step. This is the only place at which a rate
rounds. -/
def apply (r : Rate) (a : Wad) : Wad := ⟨a.raw * r.numerator / r.denominator⟩

/-- The largest amount whose exact image is within a limit. A rate of zero brings every amount
within every limit, so it is bound by none. -/
def maxInput? (r : Rate) (limit : Wad) : Option Wad :=
  if r.numerator = 0 then none else some ⟨limit.raw * r.denominator / r.numerator⟩

/-- Whether more comes out than goes in, before anything is rounded. -/
def exceedsUnity (r : Rate) : Bool := r.denominator < r.numerator

@[simp] theorem raw_apply (r : Rate) (a : Wad) :
    (r.apply a).raw = a.raw * r.numerator / r.denominator := rfl

end Rate

end Arbitrage
