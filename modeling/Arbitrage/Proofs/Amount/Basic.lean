import Arbitrage.Amount.Basic

/-!
# Differences, quotients and minima of amounts
-/

namespace Arbitrage.Amount

variable {s : Scale} {a b c : Amount s}

theorem isZero_iff : a.isZero = true ↔ a.raw = 0 := beq_iff_eq

theorem sub?_eq_some_iff : a.sub? b = some c ↔ c.raw + b.raw = a.raw := by
  rw [sub?]
  split
  · next enough =>
      rw [Option.some.injEq, Amount.ext_iff]
      constructor <;> intro h <;> simp only at h ⊢ <;> omega
  · next short =>
      simp only [reduceCtorEq, false_iff]
      omega

theorem div?_eq_some_iff :
    a.div? b = some c ↔ b.raw ≠ 0 ∧ c.raw = a.raw * s.unit / b.raw := by
  rw [div?]
  by_cases zero : b.raw = 0
  · simp [zero]
  · simp [zero, Amount.ext_iff, eq_comm]

theorem raw_min (a b : Amount s) : (a.min b).raw = Nat.min a.raw b.raw := by
  rw [min]
  split
  · next least => exact (Nat.min_eq_left least).symm
  · next least => exact (Nat.min_eq_right (Nat.le_of_not_le least)).symm

end Arbitrage.Amount
