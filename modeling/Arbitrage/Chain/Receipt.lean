import Arbitrage.Word

/-!
# Receipts

What is known of a transaction once it has been mined. A transaction that reverted has a receipt as
well.
-/

namespace Arbitrage

/-- The outcome of a mined transaction. One that reverted has a receipt as well. -/
structure Receipt where
  hash : Word
  block : Option Nat
  gas : Nat
  /-- Whether the transaction took effect; otherwise it reverted. -/
  success : Bool
  deriving DecidableEq, Repr

end Arbitrage
