import Arbitrage.Proofs.Cycle.Selection

/-!
# Prices at which nothing gains

Suppose that every asset has a price, and that no edge gives out more than it takes in when both are
valued at these prices. Then no sequence of edges does, and one that returns to where it started has
an exact rate of at most one (`exactRate_le_one`). Rounding down on the way can only lose, so no
plan along it gains whatever goes in (`Plan.output_le_of_exactRate_le_one`), and sizing accepts
none.
-/

namespace Arbitrage

/-- At some prices an edge gives out no more than it takes in, each asset being valued at its
price. -/
def Edge.FairAt (price : AssetId → ℚ) (e : Edge) : Prop :=
  e.rate.value * price e.target ≤ price e.source

section Prices

variable {price : AssetId → ℚ} {edges : List Edge}

theorem exactRate_mul_price_le {a b : AssetId} (leads : Graph.Leads a edges b)
    (fair : ∀ e ∈ edges, e.FairAt price) : exactRate edges * price b ≤ price a := by
  induction edges generalizing a with
  | nil =>
      obtain rfl := leads
      simp
  | cons e edges ih =>
      obtain ⟨rfl, leads⟩ := leads
      obtain ⟨first, others⟩ := List.forall_mem_cons.mp fair
      calc exactRate (e :: edges) * price b
          = e.rate.value * (exactRate edges * price b) := by rw [exactRate_cons, mul_assoc]
        _ ≤ e.rate.value * price e.target :=
            mul_le_mul_of_nonneg_left (ih leads others) e.rate.value_nonneg
        _ ≤ price e.source := first

/-- Around a cycle the prices cancel: if every edge is fair at some prices, the product of the rates
is at most one. -/
theorem exactRate_le_one {base : AssetId} (positive : 0 < price base)
    (leads : Graph.Leads base edges base) (fair : ∀ e ∈ edges, e.FairAt price) :
    exactRate edges ≤ 1 := by
  have valued := exactRate_mul_price_le leads fair
  rw [← one_mul (price base)] at valued
  exact le_of_mul_le_mul_right (by simpa using valued) positive

end Prices

section Rejection

variable {g : Graph} {path : Path} {edges : List Edge}

theorem Plan.output_le_of_exactRate_le_one (known : g.pathEdges path = .ok edges)
    (rate : exactRate edges ≤ 1) {input : Wad} {plan : Plan}
    (derived : Plan.derive g path input = .ok plan) : plan.output ≤ input := by
  rw [Plan.output_of_derive known derived]
  have exact : ((through edges input).raw : ℚ) ≤ input.raw := by
    calc ((through edges input).raw : ℚ) ≤ input.raw * exactRate edges := raw_through_le edges input
      _ ≤ input.raw * 1 := mul_le_mul_of_nonneg_left rate (Nat.cast_nonneg _)
      _ = input.raw := mul_one _
  exact_mod_cast exact

theorem Sizing.size_ne_ok_of_exactRate_le_one (s : Sizing) (known : g.pathEdges path = .ok edges)
    (rate : exactRate edges ≤ 1) (plan : Plan) : s.size g path ≠ .ok plan := by
  intro sized
  obtain ⟨derived, -, gains, -, profit⟩ := Sizing.size_eq_ok sized
  have loses := Plan.output_le_of_exactRate_le_one known rate derived
  rw [Amount.le_def] at loses
  omega

end Rejection

end Arbitrage
