import Arbitrage.Amount.Basic
import Mathlib.Algebra.Order.Field.Rat
import Mathlib.Algebra.Order.Floor.Semifield
import Mathlib.Data.Rat.Floor
import Mathlib.Tactic.FieldSimp
import Mathlib.Tactic.Positivity

/-!
# One rounding for all scales

What an amount is worth is a rational number, whatever its scale (`Amount.value`), and there is one
way to bring a worth to a scale, which is down to the last step (`Amount.roundDown`). A conversion
does this to the worth of an amount, and a product does it once to the exact product of two.

Down to one scale and then to a narrower one is down to the narrower one at once
(`roundDown_value_roundDown`). Every agreement between products and conversions on different scales
is a case of this (`scales_agree`).
-/

namespace Arbitrage

namespace Scale

variable {s t : Scale}

def wider (s t : Scale) : Scale := if s.decimals ≤ t.decimals then t else s

def narrower (s t : Scale) : Scale := if s.decimals ≤ t.decimals then s else t

/-- A step of a scale is a number of steps of every wider one. -/
theorem unit_eq_mul (le : s.decimals ≤ t.decimals) :
    t.unit = s.unit * 10 ^ (t.decimals - s.decimals) := by
  rw [unit, unit, ← Nat.pow_add, Nat.add_sub_cancel' le]

@[simp] theorem product_self (s : Scale) : s.product s = s := by cases s <;> rfl

theorem decimals_product_le (s t : Scale) : (s.product t).decimals ≤ s.decimals := by
  cases s <;> cases t <;> decide

theorem le_decimals_wider (s t : Scale) :
    s.decimals ≤ (s.wider t).decimals ∧ t.decimals ≤ (s.wider t).decimals := by
  cases s <;> cases t <;> decide

/-- No product is narrower than both of its factors. -/
theorem decimals_narrower_le (s t : Scale) : (s.narrower t).decimals ≤ (s.product t).decimals ∧
    (s.narrower t).decimals ≤ (t.product s).decimals := by
  cases s <;> cases t <;> decide

theorem cast_unit_pos (s : Scale) : (0 : ℚ) < s.unit := Nat.cast_pos.mpr s.unit_pos

end Scale

namespace Amount

variable {s t u : Scale}

/-- What an amount is worth, as a rational number: its raw number counts steps of its scale. -/
def value (a : Amount s) : ℚ := a.raw / s.unit

/-- The most that a number of steps may be worth without exceeding `x`. -/
def roundDown (s : Scale) (x : ℚ) : Amount s := ⟨⌊x * s.unit⌋₊⟩

section Rounding

variable {a b : Amount s} {x y : ℚ}

theorem value_nonneg (a : Amount s) : 0 ≤ a.value := by
  rw [value]
  positivity

theorem value_mul_unit (a : Amount s) : a.value * s.unit = a.raw :=
  div_mul_cancel₀ _ s.cast_unit_pos.ne'

theorem value_le_value_iff : a.value ≤ b.value ↔ a ≤ b := by
  rw [value, value, div_le_div_iff_of_pos_right s.cast_unit_pos, Nat.cast_le, le_def]

@[simp] theorem roundDown_value (a : Amount s) : roundDown s a.value = a := by
  rw [roundDown, value_mul_unit, Nat.floor_natCast]

theorem roundDown_mono (s : Scale) (le : x ≤ y) : roundDown s x ≤ roundDown s y :=
  Nat.floor_mono (mul_le_mul_of_nonneg_right le s.cast_unit_pos.le)

/-- Rounding never adds anything, and takes away less than one step. -/
theorem value_roundDown_le (nonneg : 0 ≤ x) : (roundDown s x).value ≤ x := by
  rw [value, div_le_iff₀ s.cast_unit_pos]
  exact Nat.floor_le (mul_nonneg nonneg s.cast_unit_pos.le)

theorem lt_value_roundDown (s : Scale) (x : ℚ) :
    x < (roundDown s x).value + (⟨1⟩ : Amount s).value := by
  rw [value, value, ← add_div, lt_div_iff₀ s.cast_unit_pos, Nat.cast_one]
  exact Nat.lt_floor_add_one _

/-- Rounding down to a scale on the way to a narrower one makes no difference. -/
theorem roundDown_value_roundDown (le : s.decimals ≤ t.decimals) (x : ℚ) :
    roundDown s (roundDown t x).value = roundDown s x := by
  have scaled : ∀ y : ℚ, y / t.unit * s.unit = y / (10 ^ (t.decimals - s.decimals) : ℕ) := by
    intro y
    have pos := s.cast_unit_pos.ne'
    rw [Scale.unit_eq_mul le, Nat.cast_mul]
    field_simp
  have worth : x * s.unit = x * t.unit / (10 ^ (t.decimals - s.decimals) : ℕ) := by
    rw [← scaled, mul_div_cancel_right₀ _ t.cast_unit_pos.ne']
  ext
  show ⌊(⌊x * t.unit⌋₊ : ℚ) / t.unit * s.unit⌋₊ = ⌊x * s.unit⌋₊
  rw [scaled, worth, Nat.floor_div_natCast, Nat.floor_div_natCast, Nat.floor_natCast]

end Rounding

section Conversions

variable {a b : Amount s}

/-- A conversion rounds down what an amount is worth. -/
theorem rescale_eq_roundDown (t : Scale) (a : Amount s) : a.rescale t = roundDown t a.value := by
  ext
  rw [rescale]
  split
  · next wide =>
      have exact : a.value * t.unit = (a.raw * 10 ^ (t.decimals - s.decimals) : ℕ) := by
        rw [Scale.unit_eq_mul wide, Nat.cast_mul, ← mul_assoc, value_mul_unit, ← Nat.cast_mul]
      exact (congrArg Nat.floor exact).trans (Nat.floor_natCast _) |>.symm
  · next narrow =>
      have exact : a.value * t.unit = (a.raw : ℚ) / (10 ^ (s.decimals - t.decimals) : ℕ) := by
        have pos := t.cast_unit_pos.ne'
        rw [value, Scale.unit_eq_mul (Nat.le_of_not_le narrow), Nat.cast_mul]
        field_simp
      exact (congrArg Nat.floor exact).trans (Nat.floor_div_eq_div _ _) |>.symm

theorem value_rescale (wide : s.decimals ≤ t.decimals) (a : Amount s) :
    (a.rescale t).value = a.value := by
  have pos := s.cast_unit_pos.ne'
  rw [rescale, if_pos wide, value, value, Scale.unit_eq_mul wide, Nat.cast_mul, Nat.cast_mul]
  field_simp

theorem rescale_mono (t : Scale) (le : a ≤ b) : a.rescale t ≤ b.rescale t := by
  rw [rescale_eq_roundDown, rescale_eq_roundDown]
  exact roundDown_mono t (value_le_value_iff.mpr le)

end Conversions

section Products

variable {a a' : Amount s} {b b' : Amount t}

/-- A product is the exact one rounded down once. -/
theorem mul_eq_roundDown (a : Amount s) (b : Amount t) :
    a * b = roundDown (s.product t) (a.value * b.value) := by
  have within : (s.product t).decimals ≤ s.decimals + t.decimals :=
    (s.decimals_product_le t).trans (Nat.le_add_right _ _)
  have units : s.unit * t.unit =
      (s.product t).unit * 10 ^ (s.decimals + t.decimals - (s.product t).decimals) := by
    simp only [Scale.unit]
    rw [← Nat.pow_add, ← Nat.pow_add, Nat.add_sub_cancel' within]
  have exact : a.value * b.value * (s.product t).unit = ((a.raw * b.raw : ℕ) : ℚ) /
      (10 ^ (s.decimals + t.decimals - (s.product t).decimals) : ℕ) := by
    have pos := (s.product t).cast_unit_pos.ne'
    rw [value, value, div_mul_div_comm, ← Nat.cast_mul, ← Nat.cast_mul, units,
      Nat.cast_mul (s.product t).unit]
    field_simp
  ext
  exact (congrArg Nat.floor exact).trans (Nat.floor_div_eq_div _ _) |>.symm

theorem mul_mono (left : a ≤ a') (right : b ≤ b') : a * b ≤ a' * b' := by
  rw [mul_eq_roundDown, mul_eq_roundDown]
  exact roundDown_mono _ (mul_le_mul (value_le_value_iff.mpr left) (value_le_value_iff.mpr right)
    b.value_nonneg a'.value_nonneg)

/-- On a scale no wider than its own, a product is the exact one rounded down once to that scale. -/
theorem rescale_mul (le : u.decimals ≤ (s.product t).decimals) (a : Amount s) (b : Amount t) :
    (a * b).rescale u = roundDown u (a.value * b.value) := by
  rw [rescale_eq_roundDown, mul_eq_roundDown, roundDown_value_roundDown le]

end Products

/-- Products and conversions on all scales are one rounding. A product has the scale that the table
says, and is the exact product of what its factors are worth, rounded down once to that scale. It is
what comes of multiplying on the wider of the two scales and narrowing the result, and in the other
order it is the same product as far as the narrower scale can tell. A conversion likewise rounds down
once what an amount is worth: narrowing in two steps is narrowing at once, narrowing undoes widening,
and widening again after narrowing gives no more than there was, and less than one step of the
narrower scale less. More never becomes less. -/
theorem scales_agree :
    ([.wad, .ray, .rad].map fun s : Scale => [.wad, .ray, .rad].map s.product) =
      [[.wad, .wad, .wad], [.wad, .ray, .ray], [.rad, .rad, .rad]] ∧
    (∀ (s t : Scale) (a : Amount s) (b : Amount t),
      a * b = roundDown (s.product t) (a.value * b.value) ∧
      a * b = (a.rescale (s.wider t) * b.rescale (s.wider t)).rescale (s.product t) ∧
      (a * b).rescale (s.narrower t) = (b * a).rescale (s.narrower t) ∧
      ∀ (a' : Amount s) (b' : Amount t), a ≤ a' → b ≤ b' → a * b ≤ a' * b') ∧
    ∀ (s t : Scale) (a : Amount s),
      a.rescale t = roundDown t a.value ∧
      (∀ u : Scale, u.decimals ≤ t.decimals → (a.rescale t).rescale u = a.rescale u) ∧
      (s.decimals ≤ t.decimals → (a.rescale t).value = a.value ∧ (a.rescale t).rescale s = a) ∧
      (t.decimals ≤ s.decimals → (a.rescale t).rescale s ≤ a ∧
        a.value < ((a.rescale t).rescale s).value + (⟨1⟩ : Amount t).value) ∧
      ∀ a' : Amount s, a ≤ a' → a.rescale t ≤ a'.rescale t := by
  refine ⟨rfl, ?_, ?_⟩
  · intro s t a b
    obtain ⟨wide, wide'⟩ := s.le_decimals_wider t
    obtain ⟨narrow, narrow'⟩ := s.decimals_narrower_le t
    refine ⟨mul_eq_roundDown a b, ?_, ?_, fun a' b' => mul_mono⟩
    · have within : (s.product t).decimals ≤ ((s.wider t).product (s.wider t)).decimals := by
        rw [Scale.product_self]
        exact (s.decimals_product_le t).trans wide
      rw [rescale_mul within, value_rescale wide, value_rescale wide', mul_eq_roundDown]
    · rw [rescale_mul narrow, rescale_mul narrow', mul_comm]
  · intro s t a
    refine ⟨rescale_eq_roundDown t a, ?_, ?_, ?_, fun a' => rescale_mono t⟩
    · intro u le
      rw [rescale_eq_roundDown u, rescale_eq_roundDown t, roundDown_value_roundDown le,
        rescale_eq_roundDown u]
    · intro wide
      have exact := value_rescale wide a
      refine ⟨exact, ?_⟩
      rw [rescale_eq_roundDown s, exact, roundDown_value]
    · intro narrow
      have exact := value_rescale narrow (a.rescale t)
      have below : (a.rescale t).value ≤ a.value := by
        rw [rescale_eq_roundDown]
        exact value_roundDown_le a.value_nonneg
      refine ⟨value_le_value_iff.mp (exact.trans_le below), ?_⟩
      rw [exact, rescale_eq_roundDown]
      exact lt_value_roundDown t a.value

/-- One and all but a step of another, as a ray, so that a narrower scale has to cut it. -/
def almostTwo : Ray := ⟨1999999999999999999999999999⟩

/-- The same and two thirds of a unit, rounded down, as a rad, which no other scale can hold. -/
def twoThirds : Rad := ⟨666666666666666666666666666666666666666666666⟩

/-- A ray times a rad loses all digits of a rad behind those of a ray, the rad times the ray does
not; as rays the two products are equal. Of almost two, a wad keeps one and its own nines. -/
theorem scales_agree_almostTwo :
    Scale.ray.decimals ≤ Scale.rad.decimals ∧ Scale.wad.decimals ≤ Scale.ray.decimals ∧
      almostTwo * twoThirds = (⟨1333333333333333333333333332⟩ : Ray) ∧
      (twoThirds * almostTwo).rescale .ray = (⟨1333333333333333333333333332⟩ : Ray) ∧
      (almostTwo.rescale .rad).rescale .ray = almostTwo ∧
      (twoThirds.rescale .ray).rescale .wad = (⟨666666666666666666⟩ : Wad) ∧
      (almostTwo.rescale .wad).rescale .ray = (⟨1999999999999999999000000000⟩ : Ray) ∧
      (⟨1999999999999999999000000000⟩ : Ray) ≤ almostTwo := by
  obtain ⟨-, products, conversions⟩ := scales_agree
  obtain ⟨-, -, swapped, -⟩ := products .ray .rad almostTwo twoThirds
  obtain ⟨-, -, widened, -⟩ := conversions .ray .rad almostTwo
  obtain ⟨-, -, -, narrowed, -⟩ := conversions .ray .wad almostTwo
  obtain ⟨-, steps, -⟩ := conversions .rad .ray twoThirds
  have product : almostTwo * twoThirds = (⟨1333333333333333333333333332⟩ : Ray) := by decide
  have again : (almostTwo * twoThirds).rescale .ray = (⟨1333333333333333333333333332⟩ : Ray) := by
    decide
  have kept : (almostTwo.rescale .wad).rescale .ray = (⟨1999999999999999999000000000⟩ : Ray) := by
    decide
  refine ⟨by decide, by decide, product, swapped.symm.trans again, (widened (by decide)).2, ?_,
    kept, ?_⟩
  · exact (steps .wad (by decide)).trans (by decide)
  · rw [← kept]
    exact (narrowed (by decide)).1

end Amount

end Arbitrage
