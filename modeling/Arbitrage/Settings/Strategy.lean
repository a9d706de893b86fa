import Arbitrage.Failure

/-!
# What to trade, and within which limits

A strategy fixes the base asset that every cycle starts and ends in, the least profit worth trading
for, the most that one cycle may commit, and the longest cycle considered.
-/

namespace Arbitrage

/-- The fewest edges of a cycle; a single edge never leads back. -/
def minPathLength : Nat := 2

/-- The most edges that a strategy may allow, which keeps the enumeration of cycles within
bounds. -/
def maxSupportedDepth : Nat := 6

def defaultMaxDepth : Nat := 3

structure Strategy where
  base : Address
  minProfit : Wad
  maxEngagement : Wad
  maxDepth : Nat := defaultMaxDepth
  /-- Whether plans go through the batch executor. -/
  batch : Bool := false
  deriving DecidableEq, Repr

namespace Strategy

/-- The most that a cycle may commit must not be zero. -/
def checkEngagement (maxEngagement : Wad) : Except SettingsError Unit :=
  if maxEngagement.isZero then .error (.invalid "max_engagement" "must be greater than zero")
  else .ok ()

def checkDepth (depth : Nat) : Except SettingsError Unit :=
  if minPathLength ≤ depth ∧ depth ≤ maxSupportedDepth then .ok ()
  else .error (.invalid "max_depth" ("must be between " ++ toString minPathLength ++ " and " ++
    toString maxSupportedDepth ++ ", got " ++ toString depth))

/-- A strategy of the default depth that submits directly, unless it could commit nothing. -/
def make (base : Address) (minProfit maxEngagement : Wad) : Except SettingsError Strategy := do
  checkEngagement maxEngagement
  return { base, minProfit, maxEngagement }

def withMaxDepth (s : Strategy) (depth : Nat) : Except SettingsError Strategy := do
  checkDepth depth
  return { s with maxDepth := depth }

end Strategy

end Arbitrage
