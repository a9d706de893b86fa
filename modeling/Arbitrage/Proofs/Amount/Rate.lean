import Arbitrage.Amount.Rate
import Arbitrage.Market.Edge
import Mathlib.Algebra.Order.Field.Rat
import Mathlib.Data.Nat.Cast.Order.Field
import Mathlib.Tactic.Positivity

/-!
# Rates as rational numbers

The value of a rate is its fraction. Composition multiplies values, applying a rate never exceeds
the exact product, and the largest input for a limit is a bound on the exact product: an amount is
at most `maxInput?` precisely when its exact image is at most the limit.
-/

namespace Arbitrage

namespace Rate

/-- The exact value of a rate, as a rational number; everything that is said of rounding compares
with it. -/
def value (r : Rate) : ℚ := r.numerator / r.denominator

@[simp] theorem value_unity : unity.value = 1 := by simp [value, unity]

@[simp] theorem value_compose (r q : Rate) : (r.compose q).value = r.value * q.value := by
  simp [value, compose, div_mul_div_comm]

theorem value_nonneg (r : Rate) : 0 ≤ r.value := by
  rw [value]
  positivity

/-- What comes out is the exact image rounded down. -/
theorem raw_apply_le (r : Rate) (a : Wad) : ((r.apply a).raw : ℚ) ≤ a.raw * r.value := by
  calc ((r.apply a).raw : ℚ) ≤ ((a.raw * r.numerator : ℕ) : ℚ) / r.denominator := Nat.cast_div_le
    _ = a.raw * r.value := by rw [value, Nat.cast_mul, mul_div_assoc]

/-- The exact image of an amount is within a limit, without a division. The inequality of products
is what the code compares. -/
theorem mul_value_le_iff {r : Rate} (pos : 0 < r.denominator) (a limit : Wad) :
    (a.raw : ℚ) * r.value ≤ limit.raw ↔ a.raw * r.numerator ≤ limit.raw * r.denominator := by
  have pos : (0 : ℚ) < r.denominator := by exact_mod_cast pos
  rw [value, ← mul_div_assoc, div_le_iff₀ pos]
  exact_mod_cast Iff.rfl

/-- Exactly the amounts up to the largest input have their exact image within the limit. A rate
that is zero is bound by none. -/
theorem le_maxInput?_iff {r : Rate} (pos : 0 < r.denominator) (a limit : Wad) :
    (∀ bound ∈ r.maxInput? limit, a ≤ bound) ↔ (a.raw : ℚ) * r.value ≤ limit.raw := by
  rw [mul_value_le_iff pos]
  rw [maxInput?]
  by_cases zero : r.numerator = 0
  · simp [zero]
  · simp only [zero, if_false, Option.mem_some_iff, forall_eq', Amount.le_def]
    exact Nat.le_div_iff_mul_le (Nat.pos_of_ne_zero zero)

end Rate

theorem Edge.rate_denominator_pos (e : Edge) : 0 < e.rate.denominator := by
  rw [rate]
  split
  · exact Scale.unit_pos _
  · rw [Rate.ofFraction?]
    split
    · exact Scale.unit_pos _
    · simp only [Option.getD_some]
      omega

theorem Edge.raw_output_le (e : Edge) (a : Wad) : ((e.output a).raw : ℚ) ≤ a.raw * e.rate.value :=
  e.rate.raw_apply_le a

theorem Edge.output_mono (e : Edge) {a b : Wad} (le : b ≤ a) : e.output b ≤ e.output a :=
  Nat.div_le_div_right (Nat.mul_le_mul_right _ le)

end Arbitrage
