/-!
# Powers and sums of natural numbers

Amounts are scaled by powers of ten, integers are bounded by powers of two, and totals are sums. A
library may bring structures of its own that the natural numbers have powers and a zero from; the
ones of the language come first here, so that an expression means the same in every module.
-/

attribute [instance (2000), default_instance 20000] instPowNat

namespace Arbitrage

/-- The zero that a sum starts from. -/
instance (priority := 2000) zeroNat : Zero Nat := ⟨0⟩

end Arbitrage
