import Arbitrage.Proofs.Amount.Rate

/-!
# What the capacity of an edge means

A capacity limits what goes into an edge or what comes out of it, and the edge states it as one
number, its largest input. Where a limit on what comes out is turned into one on what goes in, the
quotient is rounded down, and so is what comes out. The two roundings fit: exactly those inputs are
admitted whose unrounded image is within the limit (`Edge.admits_exact`).
-/

namespace Arbitrage

namespace Rate

variable {r : Rate} {x limit : Wad}

/-- The largest input for a limit, without a division: the only rate that has none is zero. -/
theorem exists_maxInput? (moves : r.isZero = false) (limit : Wad) :
    ∃ most, r.maxInput? limit = some most ∧
      ∀ x : Wad, x ≤ most ↔ x.raw * r.numerator ≤ limit.raw * r.denominator := by
  have nonzero : r.numerator ≠ 0 := by simpa [isZero] using moves
  refine ⟨_, if_neg nonzero, ?_⟩
  intro x
  exact Nat.le_div_iff_mul_le (Nat.pos_of_ne_zero nonzero)

theorem apply_le (within : x.raw * r.numerator ≤ limit.raw * r.denominator) : r.apply x ≤ limit := by
  refine Nat.div_le_of_le_mul ?_
  rwa [Nat.mul_comm r.denominator]

end Rate

namespace Edge

variable {e : Edge} {x : Wad}

/-- The most that may come out of an edge, if its terms limit that. -/
def supply? (e : Edge) : Option Wad :=
  match e.terms with
  | .fixedPrice _ _ .unbounded | .fixedPrice _ _ (.input _) => none
  | .fixedPrice _ _ (.output limit) => some limit
  | .order _ pay _ => some pay

/-- An input is within the capacity that the terms of an edge state, nothing being rounded. -/
def Covers (e : Edge) (x : Wad) : Prop :=
  match e.terms with
  | .fixedPrice _ _ .unbounded => True
  | .fixedPrice _ _ (.input limit) => x ≤ limit
  | .fixedPrice _ price (.output limit) => (x.raw * price.raw : ℚ) / 10 ^ 18 ≤ limit.raw
  | .order _ _ buy => x ≤ buy

theorem admits_iff : e.admits x = true ↔ ∀ most ∈ e.maxInput?, x ≤ most := by
  rw [admits]
  cases e.maxInput? with
  | none => simp
  | some most => simp

/-- Where the terms limit what comes out, the edge admits what has its exact image within that. For
an order this is what goes in for all that it pays. -/
theorem admits_iff_mul_le (moves : e.rate.isZero = false) {limit : Wad} (supply : e.supply? = some limit) :
    e.admits x = true ↔ x.raw * e.rate.numerator ≤ limit.raw * e.rate.denominator := by
  obtain ⟨source, target, terms⟩ := e
  rw [admits_iff]
  rcases terms with ⟨op, price, _ | capacity | capacity⟩ | ⟨id, pay, buy⟩
  · cases supply
  · cases supply
  · obtain rfl := Option.some.inj supply
    obtain ⟨most, bound, exact⟩ := Rate.exists_maxInput? moves capacity
    simp only [maxInput?, bound, Option.getD_some, Option.mem_some_iff, forall_eq']
    exact exact x
  · obtain rfl := Option.some.inj supply
    -- The rate of an order is zero unless it asks something and pays something.
    by_cases asks : buy.raw = 0
    · simp [rate, Rate.ofFraction?, asks, Rate.isZero, Rate.ofPrice] at moves
    · have pays : 0 < pay.raw := by
        simp only [rate, Rate.ofFraction?, asks, if_false, Option.getD_some, Rate.isZero,
          beq_eq_false_iff_ne] at moves
        exact Nat.pos_of_ne_zero moves
      simp only [maxInput?, rate, Rate.ofFraction?, asks, if_false, Option.getD_some,
        Option.mem_some_iff, forall_eq', Nat.mul_comm pay.raw]
      exact (Nat.mul_le_mul_right_iff pays).symm

theorem admits_iff_covers (moves : e.rate.isZero = false) : e.admits x = true ↔ e.Covers x := by
  obtain ⟨source, target, terms⟩ := e
  rcases terms with ⟨op, price, _ | limit | limit⟩ | ⟨id, pay, buy⟩
  · simp [admits_iff, maxInput?, Covers]
  · simp [admits_iff, maxInput?, Covers]
  · have exact := Rate.mul_value_le_iff (Scale.unit_pos .wad) (r := Rate.ofPrice price) x limit
    have image : (x.raw * price.raw : ℚ) / 10 ^ 18 = x.raw * (Rate.ofPrice price).value := by
      rw [mul_div_assoc, Rate.value]
      norm_num [Rate.ofPrice, Scale.unit, Scale.decimals]
    rw [admits_iff_mul_le moves rfl]
    show _ ↔ (x.raw * price.raw : ℚ) / 10 ^ 18 ≤ limit.raw
    rw [image]
    exact exact.symm
  · simp [admits_iff, maxInput?, Covers]

/-- The capacity of an edge is exact. Of an edge whose rate is not zero, the inputs admitted are those
within the capacity that it states: up to the limit on what goes in, up to what the order asks, or
such that the product with the price is within the limit on what comes out before it is rounded. What
comes out for them is within that limit, or within what the order pays, and they are all the inputs
whose exact image is. More never comes out for less, and the largest input is the largest one that is
admitted. All of this holds as the largest input of a rate that is not zero for a limit is exact. -/
theorem admits_exact (e : Edge) (moves : e.rate.isZero = false) :
    (∀ x, e.admits x = true ↔ e.Covers x) ∧
      (∀ limit ∈ e.supply?, ∀ x,
        (e.admits x = true ↔ (x.raw : ℚ) * e.rate.value ≤ limit.raw) ∧
        (e.admits x = true → e.output x ≤ limit)) ∧
      (∀ x y, x ≤ y → e.output x ≤ e.output y) ∧
      (∀ most ∈ e.maxInput?, e.admits most = true ∧ ∀ x, e.admits x = true → x ≤ most) ∧
      ∀ r : Rate, r.isZero = false → ∀ limit, ∃ most, r.maxInput? limit = some most ∧
        ∀ x : Wad, (x ≤ most ↔ x.raw * r.numerator ≤ limit.raw * r.denominator) ∧
          (x ≤ most → r.apply x ≤ limit) := by
  refine ⟨fun x => admits_iff_covers moves, ?_, fun x y le => e.output_mono le, ?_, ?_⟩
  · intro limit supply x
    have exact := admits_iff_mul_le (x := x) moves supply
    refine ⟨?_, fun admitted => Rate.apply_le (exact.mp admitted)⟩
    rw [exact, Rate.mul_value_le_iff e.rate_denominator_pos]
  · intro most bound
    rw [Option.mem_def] at bound
    simp only [admits_iff, bound, Option.mem_some_iff, forall_eq']
    exact ⟨Nat.le_refl _, fun x within => within⟩
  · intro r moves limit
    obtain ⟨most, bound, exact⟩ := Rate.exists_maxInput? moves limit
    exact ⟨most, bound, fun x => ⟨exact x, fun le => Rate.apply_le ((exact x).mp le)⟩⟩

/-- Three tenths for one, of which at most one unit comes out. -/
def tenths : Edge := ⟨0, 1, .fixedPrice .bust ⟨300000000000000000⟩ (.output .one)⟩

/-- Three and a third may go in, rounded down: one step more would exceed the limit exactly, though
what comes out for it does not once it is rounded. -/
theorem admits_exact_tenths :
    tenths.rate.isZero = false ∧ tenths.maxInput? = some ⟨3333333333333333333⟩ ∧
      tenths.admits ⟨3333333333333333333⟩ = true ∧
      tenths.output ⟨3333333333333333333⟩ ≤ .one ∧
      ¬ tenths.Covers ⟨3333333333333333334⟩ ∧ tenths.output ⟨3333333333333333334⟩ = .one := by
  have moves : tenths.rate.isZero = false := by decide
  have bound : tenths.maxInput? = some ⟨3333333333333333333⟩ := by decide
  obtain ⟨covers, supply, -, largest, -⟩ := admits_exact tenths moves
  have admitted := (largest _ bound).1
  refine ⟨moves, bound, admitted, (supply .one rfl _).2 admitted, ?_, by decide⟩
  rw [← covers]
  decide

end Edge

end Arbitrage
