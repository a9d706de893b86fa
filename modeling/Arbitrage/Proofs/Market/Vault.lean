import Arbitrage.Market.Vault
import Arbitrage.Proofs.Amount.Basic

/-!
# What the vault's edges promise

Each edge of the vault is read off its state with one or two roundings, and the vault charges and
pays with roundings of its own. The lemmas here put the two side by side, for an input that the edge
admits and the output that it states: the vault never charges more than the input nor pays less than
the output, and has as much to sell and to pay out as that takes.
-/

namespace Arbitrage

namespace Edge

variable {e : Edge} {x : Wad}

theorem le_of_admits {limit : Wad} (admitted : e.admits x = true) (bound : e.maxInput? = some limit) :
    x ≤ limit := by
  simpa [admits, bound] using admitted

/-- An exchange at a rounded price and back at the exact one returns no more than went in. -/
theorem round_trip_le {x price back u v : Nat} (exact : price * back ≤ u * v) (hu : 0 < u) :
    x * price / u * back / v ≤ x := by
  apply Nat.div_le_of_le_mul
  apply Nat.le_of_mul_le_mul_left _ hu
  calc u * (x * price / u * back) = u * (x * price / u) * back := (Nat.mul_assoc ..).symm
    _ ≤ x * price * back := Nat.mul_le_mul_right _ (Nat.mul_div_le ..)
    _ = x * (price * back) := Nat.mul_assoc ..
    _ ≤ x * (u * v) := Nat.mul_le_mul_left _ exact
    _ = u * (v * x) := by rw [Nat.mul_comm x, Nat.mul_assoc]

/-- What a quotient is at most, its divisor can be taken from. -/
theorem mul_div_le_of_le_div {x n p u : Nat} (h : x ≤ n * u / p) (hu : 0 < u) : x * p / u ≤ n := by
  rw [← Nat.mul_div_cancel n hu]
  apply Nat.div_le_div_right
  exact Nat.le_trans (Nat.mul_le_mul_right p h) (Nat.div_mul_le_self ..)

end Edge

theorem Feed.isUsable_iff {feed : Feed} :
    feed.isUsable = true ↔ feed.live = true ∧ feed.value.raw ≠ 0 := by
  simp [isUsable, Amount.isZero]

namespace Vault

variable {v : Vault} {ids : VaultAssets} {e : Edge}

theorem nonzero?_eq_some_iff {s : Scale} {a b : Amount s} :
    a.nonzero? = some b ↔ a = b ∧ b.raw ≠ 0 := by
  rw [Amount.nonzero?]
  by_cases zero : a.raw = 0
  · simp only [Amount.isZero, zero, beq_self_eq_true, if_true, reduceCtorEq, false_iff]
    rintro ⟨rfl, h⟩
    exact h zero
  · simp only [Amount.isZero, beq_iff_eq, zero, if_false, Option.some.injEq]
    constructor
    · rintro rfl
      exact ⟨rfl, zero⟩
    · intro h
      exact h.1

theorem join_edge?_iff :
    v.edge? ids .join = some e ↔ ∃ price : Wad,
      v.per.raw ≠ 0 ∧ price.raw = 10 ^ 45 / v.per.raw ∧ price.raw ≠ 0 ∧
      e = ⟨ids.gem, ids.skr, .fixedPrice .join price .unbounded⟩ := by
  simp only [edge?, joinPrice?, Option.map_eq_some_iff, Option.ite_none_left_eq_some,
    nonzero?_eq_some_iff, Amount.isZero_iff, Amount.ext_iff]
  constructor
  · rintro ⟨price, ⟨pos, same, nonzero⟩, rfl⟩
    exact ⟨price, pos, same.symm, nonzero, rfl⟩
  · rintro ⟨price, pos, same, nonzero, rfl⟩
    exact ⟨price, ⟨pos, same.symm, nonzero⟩, rfl⟩

theorem exit_edge?_iff :
    v.edge? ids .exit = some e ↔ ∃ price : Wad,
      price.raw = v.per.raw / 10 ^ 9 ∧ price.raw ≠ 0 ∧
      e = ⟨ids.skr, ids.gem, .fixedPrice .exit price .unbounded⟩ := by
  simp only [edge?, exitPrice?, Option.map_eq_some_iff, nonzero?_eq_some_iff, Amount.ext_iff]
  constructor
  · rintro ⟨price, ⟨same, nonzero⟩, rfl⟩
    exact ⟨price, same.symm, nonzero, rfl⟩
  · rintro ⟨price, same, nonzero, rfl⟩
    exact ⟨price, ⟨same.symm, nonzero⟩, rfl⟩

theorem boom_edge?_iff :
    v.edge? ids .boom = some e ↔ ∃ spread capacity : Wad,
      spread.raw + v.gap.raw = (Amount.ofUnits 2 : Wad).raw ∧
      (v.tag * spread : Wad).raw ≠ 0 ∧
      capacity.raw = v.joy.raw * 10 ^ 18 / (v.tag * spread : Wad).raw ∧ capacity.raw ≠ 0 ∧
      e = ⟨ids.skr, ids.sai, .fixedPrice .boom (v.tag * spread : Wad) (.input capacity)⟩ := by
  simp only [edge?, boomEdge?, boomPrice?, Option.bind_eq_bind, Option.bind_eq_some_iff,
    Option.pure_def, Option.some.injEq, nonzero?_eq_some_iff, Amount.sub?_eq_some_iff,
    Amount.div?_eq_some_iff]
  constructor
  · rintro ⟨_, ⟨spread, same, rfl, price⟩, _, ⟨-, quotient⟩, capacity, ⟨rfl, nonzero⟩, rfl⟩
    exact ⟨spread, _, same, price, quotient, nonzero, rfl⟩
  · rintro ⟨spread, capacity, same, price, quotient, nonzero, rfl⟩
    exact ⟨_, ⟨spread, same, rfl, price⟩, capacity, ⟨price, quotient⟩, capacity, ⟨rfl, nonzero⟩, rfl⟩

theorem bust_edge?_iff :
    v.edge? ids .bust = some e ↔ ∃ price covered capacity : Wad,
      (v.tag * v.gap : Wad).raw ≠ 0 ∧
      price.raw = 10 ^ 36 / (v.tag * v.gap : Wad).raw ∧ price.raw ≠ 0 ∧
      covered.raw = v.woe.raw * 10 ^ 18 / (v.tag * v.gap : Wad).raw ∧
      capacity = covered.min v.fog ∧ capacity.raw ≠ 0 ∧
      e = ⟨ids.sai, ids.skr, .fixedPrice .bust price (.output capacity)⟩ := by
  simp only [edge?, bustEdge?, bustCost?, Amount.inverse?, Option.bind_eq_bind,
    Option.bind_eq_some_iff, Option.pure_def, Option.some.injEq, nonzero?_eq_some_iff,
    Amount.div?_eq_some_iff]
  constructor
  · rintro ⟨_, ⟨rfl, cost⟩, _, ⟨-, inverse⟩, price, ⟨rfl, nonzero⟩, covered, ⟨-, quotient⟩,
      capacity, ⟨rfl, some⟩, rfl⟩
    exact ⟨_, covered, _, cost, inverse, nonzero, quotient, rfl, some, rfl⟩
  · rintro ⟨price, covered, capacity, cost, inverse, nonzero, quotient, rfl, some, rfl⟩
    exact ⟨_, ⟨rfl, cost⟩, price, ⟨cost, inverse⟩, price, ⟨rfl, nonzero⟩, covered, ⟨cost, quotient⟩,
      _, ⟨rfl, some⟩, rfl⟩

section Promise

variable {x : Wad}

/-- Joining for what the edge states costs no more than what goes in. -/
theorem join_cost_le (offered : v.edge? ids .join = some e) (x : Wad) :
    (e.output x * v.per : Wad) ≤ x := by
  obtain ⟨price, -, same, -, rfl⟩ := join_edge?_iff.mp offered
  have exact : price.raw * v.per.raw ≤ 10 ^ 18 * 10 ^ 27 := by
    rw [same]
    exact Nat.div_mul_le_self ..
  exact Edge.round_trip_le exact (Scale.unit_pos .wad)

theorem exit_gain_ge (offered : v.edge? ids .exit = some e) (x : Wad) :
    e.output x ≤ (x * v.per : Wad) := by
  obtain ⟨price, same, -, rfl⟩ := exit_edge?_iff.mp offered
  have rounded : x.raw * price.raw ≤ x.raw * v.per.raw / 10 ^ 9 := by
    rw [same]
    exact Nat.mul_div_le_mul_div_assoc ..
  have divided := Nat.div_le_div_right (c := 10 ^ 18) rounded
  rw [Nat.div_div_eq_div_mul] at divided
  exact divided

/-- A boom pays exactly what the edge states, and the surplus holds as much. -/
theorem boom_gain_eq (offered : v.edge? ids .boom = some e) (admitted : e.admits x = true) :
    ∃ spread : Wad, spread.raw + v.gap.raw = (Amount.ofUnits 2 : Wad).raw ∧
      e.output x = (x * (v.tag * spread : Wad) : Wad) ∧ e.output x ≤ v.joy := by
  obtain ⟨spread, capacity, same, -, quotient, -, rfl⟩ := boom_edge?_iff.mp offered
  have within : x ≤ capacity := Edge.le_of_admits admitted rfl
  rw [Amount.le_def, quotient] at within
  exact ⟨spread, same, rfl, Edge.mul_div_le_of_le_div within (Scale.unit_pos .wad)⟩

/-- A bust for what the edge states costs no more than what goes in, and both the shares to sell and
the debt to cover suffice for it. -/
theorem bust_cost_le (offered : v.edge? ids .bust = some e) (admitted : e.admits x = true) :
    (e.output x * (v.tag * v.gap : Wad) : Wad) ≤ x ∧ e.output x ≤ v.fog ∧
      (e.output x * (v.tag * v.gap : Wad) : Wad) ≤ v.woe := by
  obtain ⟨price, covered, capacity, -, inverse, nonzero, quotient, rfl, -, rfl⟩ :=
    bust_edge?_iff.mp offered
  have exact : price.raw * (v.tag * v.gap : Wad).raw ≤ 10 ^ 18 * 10 ^ 18 := by
    rw [inverse]
    exact Nat.div_mul_le_self ..
  have within : x.raw ≤ (covered.min v.fog).raw * 10 ^ 18 / price.raw := by
    have bound : (Rate.ofPrice price).maxInput? (covered.min v.fog) =
      some ⟨(covered.min v.fog).raw * 10 ^ 18 / price.raw⟩ := if_neg nonzero
    have limit := Edge.le_of_admits admitted (by simp only [Edge.maxInput?, Edge.rate, bound]; rfl)
    exact limit
  have sold : x.raw * price.raw / 10 ^ 18 ≤ (covered.min v.fog).raw :=
    Edge.mul_div_le_of_le_div within (by decide)
  rw [Amount.raw_min] at sold
  obtain ⟨least, stocked⟩ := Nat.le_min.mp sold
  refine ⟨Edge.round_trip_le exact (Scale.unit_pos .wad), stocked, ?_⟩
  have owed : x.raw * price.raw / 10 ^ 18 ≤
      v.woe.raw * 10 ^ 18 / (v.tag * v.gap : Wad).raw := by
    rwa [← quotient]
  exact Edge.mul_div_le_of_le_div owed (Scale.unit_pos .wad)

end Promise

end Vault

end Arbitrage
