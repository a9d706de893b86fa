import Arbitrage.Proofs.Cycle.Pricing
import Arbitrage.Proofs.Market.Universe

/-!
# The vault alone offers no gain

Every price of the vault is rounded, some of them twice: join pays a truncated `1 / per` and exit a
truncated `per`, boom pays a truncated `tag * (2 - gap)` and bust the truncated inverse of a
truncated `tag * gap`. Against one price for each token, `Vault.worth`, all of these roundings go
the same way: whatever the vault does, it gives out no more than it takes in, unless its spread is
inverted (`Vault.fairAt_worth`). So a snapshot without orders holds no cycle that gains
(`Snapshot.evaluate_quiet`).
-/

namespace Arbitrage

theorem Rate.value_ofPrice (price : Wad) :
    (Rate.ofPrice price).value = price.raw / (10 : ℕ) ^ 18 := by
  rw [value, ofPrice, ← Nat.cast_pow]
  rfl

section Fractions

variable {p q u w : ℕ}

/-- A fraction is at most another if it is so across the denominators. -/
theorem cast_div_le_cast_div (hu : 0 < u) (hq : 0 < q) (across : p * q ≤ w * u) :
    (p / u : ℚ) ≤ w / q := by
  rw [div_le_div_iff₀ (by exact_mod_cast hu) (by exact_mod_cast hq)]
  exact_mod_cast across

/-- A fraction of a fraction is at most one if the numerators are at most the denominators. -/
theorem cast_div_mul_cast_div_le_one (hu : 0 < u) (hq : 0 < q) (across : p * w ≤ u * q) :
    (p / u * (w / q) : ℚ) ≤ 1 := by
  rw [div_mul_div_comm]
  apply div_le_one_of_le₀
  · exact_mod_cast across
  · positivity

end Fractions

namespace Vault

variable {v : Vault} {e : Edge}

/-- What the tokens are worth in shares of the pool: collateral `1 / per`, stablecoin
`1 / (tag * gap)`. Where that is not a number the vault offers nothing for the token. -/
def worth (v : Vault) (id : AssetId) : ℚ :=
  if id = Snapshot.vaultAssets.gem ∧ v.per.raw ≠ 0 then ((10 ^ 27 : ℕ) : ℚ) / v.per.raw
  else if id = Snapshot.vaultAssets.sai ∧ (v.tag * v.gap : Wad).raw ≠ 0 then
    ((10 ^ 18 : ℕ) : ℚ) / (v.tag * v.gap : Wad).raw
  else 1

theorem worth_pos (v : Vault) (id : AssetId) : 0 < v.worth id := by
  rw [worth]
  split
  · next collateral =>
      have := Nat.pos_of_ne_zero collateral.2
      positivity
  split
  · next stablecoin =>
      have := Nat.pos_of_ne_zero stablecoin.2
      positivity
  · exact one_pos

theorem worth_skr (v : Vault) : v.worth Snapshot.vaultAssets.skr = 1 := by
  simp [worth, Snapshot.vaultAssets]

theorem worth_gem (per : v.per.raw ≠ 0) :
    v.worth Snapshot.vaultAssets.gem = ((10 ^ 27 : ℕ) : ℚ) / v.per.raw :=
  if_pos ⟨rfl, per⟩

theorem worth_sai (cost : (v.tag * v.gap : Wad).raw ≠ 0) :
    v.worth Snapshot.vaultAssets.sai = ((10 ^ 18 : ℕ) : ℚ) / (v.tag * v.gap : Wad).raw := by
  rw [worth, if_neg (by simp [Snapshot.vaultAssets]), if_pos ⟨rfl, cost⟩]

/-- Unless the spread is inverted, a share is sold for no more than is asked for one. -/
theorem boomPrice_le_bustCost (upright : (.one : Wad) ≤ v.gap) {spread : Wad}
    (same : spread.raw + v.gap.raw = (Amount.ofUnits 2 : Wad).raw) :
    (v.tag * spread : Wad) ≤ (v.tag * v.gap : Wad) := by
  have narrower : spread.raw ≤ v.gap.raw := by
    have two : (Amount.ofUnits 2 : Wad).raw = 2 * (.one : Wad).raw := rfl
    rw [Amount.le_def] at upright
    omega
  exact Nat.div_le_div_right (Nat.mul_le_mul_left _ narrower)

/-- Unless the spread is inverted, no operation gives out more than it takes in. -/
theorem fairAt_worth (upright : (.one : Wad) ≤ v.gap) {op : VaultOp}
    (offered : v.edge? Snapshot.vaultAssets op = some e) : e.FairAt v.worth := by
  -- A price is a quotient rounded down, so times its divisor it is at most the dividend. That is all
  -- there is to be known of the rounding; only boom needs the spread as well.
  cases op with
  | join =>
      obtain ⟨price, per, inverse, -, rfl⟩ := join_edge?_iff.mp offered
      have exact : price.raw * v.per.raw ≤ 10 ^ 27 * 10 ^ 18 := by
        rw [inverse]
        exact Nat.div_mul_le_self ..
      rw [Edge.FairAt, Edge.rate, Rate.value_ofPrice, worth_skr, worth_gem per, mul_one]
      exact cast_div_le_cast_div (by decide) (Nat.pos_of_ne_zero per) exact
  | exit =>
      obtain ⟨price, rounded, nonzero, rfl⟩ := exit_edge?_iff.mp offered
      have exact : price.raw * 10 ^ 9 ≤ v.per.raw := by
        rw [rounded]
        exact Nat.div_mul_le_self ..
      have per : 0 < v.per.raw := by omega
      rw [Edge.FairAt, Edge.rate, Rate.value_ofPrice, worth_skr, worth_gem per.ne']
      refine cast_div_mul_cast_div_le_one (by decide) per ?_
      calc price.raw * 10 ^ 27 = 10 ^ 18 * (price.raw * 10 ^ 9) := by
            rw [Nat.mul_left_comm, ← Nat.pow_add]
        _ ≤ 10 ^ 18 * v.per.raw := Nat.mul_le_mul_left _ exact
  | boom =>
      obtain ⟨spread, capacity, same, nonzero, -, -, rfl⟩ := boom_edge?_iff.mp offered
      have exact : (v.tag * spread : Wad).raw ≤ (v.tag * v.gap : Wad).raw :=
        boomPrice_le_bustCost upright same
      have cost : 0 < (v.tag * v.gap : Wad).raw := by omega
      rw [Edge.FairAt, Edge.rate, Rate.value_ofPrice, worth_skr, worth_sai cost.ne']
      refine cast_div_mul_cast_div_le_one (by decide) cost ?_
      rw [Nat.mul_comm]
      exact Nat.mul_le_mul_left _ exact
  | bust =>
      obtain ⟨price, covered, capacity, cost, inverse, -, -, -, -, rfl⟩ := bust_edge?_iff.mp offered
      have exact : price.raw * (v.tag * v.gap : Wad).raw ≤ 10 ^ 18 * 10 ^ 18 := by
        rw [inverse]
        exact Nat.div_mul_le_self ..
      rw [Edge.FairAt, Edge.rate, Rate.value_ofPrice, worth_skr, worth_sai cost, mul_one]
      exact cast_div_le_cast_div (by decide) (Nat.pos_of_ne_zero cost) exact

end Vault

namespace Snapshot

variable {tokens : Tokens} {orders : List Order} {state : MarketState} {strategy : Strategy}
  {s : Snapshot}

/-- No resting order offers an exchange of two different vault tokens. -/
def Quiet (tokens : Tokens) (orders : List Order) : Prop :=
  ∀ order ∈ orders, ∀ e, ¬ Trades tokens order e

theorem quiet_iff (distinct : tokens.Distinct) : Quiet tokens orders ↔
    ∀ order ∈ orders, order.isLive = true → orderEdge? tokens order = none := by
  simp only [Quiet, trades_iff distinct, not_and, Option.eq_none_iff_forall_not_mem,
    Option.mem_def]
  exact forall₂_congr fun order _ => forall_comm

/-- A book without an exchange does not stand in the way of a snapshot. -/
theorem exists_take_of_quiet (distinct : tokens.Distinct)
    (known : tokens.contains strategy.base = true) (usable : state.vault.feed.isUsable = true)
    (quiet : Quiet tokens state.orders) : ∃ s, take state strategy tokens = .ok s := by
  have apart : ¬ Clash tokens state.orders := by
    rintro ⟨a, b, e, f, both, trades, -⟩
    exact quiet a (both.subset List.mem_cons_self) e trades
  obtain ⟨taken, -⟩ | ⟨-, clash⟩ := take_or_clash distinct known usable
  · exact taken
  · exact absurd clash apart

/-- Without an order to trade, all edges of a snapshot are the vault's. -/
theorem fairAt_of_take (distinct : tokens.Distinct) (upright : (.one : Wad) ≤ state.vault.gap)
    (quiet : Quiet tokens state.orders) (taken : take state strategy tokens = .ok s) :
    ∀ e ∈ s.graph.edges, e.FairAt state.vault.worth := by
  intro e listed
  rcases mem_edges_of_take distinct taken listed with ⟨op, offered⟩ | ⟨order, known, live, edge⟩
  · exact Vault.fairAt_worth upright offered
  · exact absurd ((trades_iff distinct).mpr ⟨live, edge⟩) (quiet order known e)

/-- With a usable feed, a spread that is not inverted and no order to trade, there is a snapshot,
and no cycle of it gives out more than goes in, whatever goes in; so none is chosen. -/
theorem evaluate_quiet (distinct : tokens.Distinct)
    (known : tokens.contains strategy.base = true)
    (usable : state.vault.feed.live = true ∧ state.vault.feed.value.raw ≠ 0)
    (upright : (.one : Wad) ≤ state.vault.gap) (quiet : Quiet tokens state.orders) :
    ∃ s, take state strategy tokens = .ok s ∧
      (∀ maxDepth path, s.graph.checkCycle s.base maxDepth path = .ok () → ∀ input plan,
        Plan.derive s.graph path input = .ok plan → plan.output ≤ input) ∧
      ((Sizing.ofSnapshot strategy s).evaluate s.graph
        (s.graph.cycles s.base strategy.maxDepth)).best = none := by
  obtain ⟨s, taken⟩ := exists_take_of_quiet distinct known (Feed.isUsable_iff.mpr usable) quiet
  have rate : ∀ maxDepth path, s.graph.checkCycle s.base maxDepth path = .ok () →
      ∃ edges, s.graph.pathEdges path = .ok edges ∧ exactRate edges ≤ 1 := by
    intro maxDepth path checked
    obtain ⟨-, -, edges, along, leads, -⟩ := Graph.checkCycle_eq_ok_iff.mp checked
    have fair : ∀ e ∈ edges, e.FairAt state.vault.worth := fun e listed =>
      fairAt_of_take distinct upright quiet taken e (Graph.mem_edges_of_pathEdges along e listed)
    exact ⟨edges, along, exactRate_le_one (state.vault.worth_pos s.base) leads fair⟩
  refine ⟨s, taken, ?_, ?_⟩
  · intro maxDepth path checked input plan derived
    obtain ⟨edges, along, loses⟩ := rate maxDepth path checked
    exact Plan.output_le_of_exactRate_le_one along loses derived
  · obtain ⟨_, _, _, -, -, -, -, built, -⟩ := take_eq_ok taken
    have wf := (Graph.Built.of_build (tokenGraph_eq_ok_iff.mp built)).wellFormed
    refine (Sizing.optimal_evaluate _ _ _).best_eq_none_iff.mpr ?_
    intro path listed
    obtain ⟨edges, along, loses⟩ := rate _ path ((Graph.mem_cycles_iff wf).mp listed).1
    exact Sizing.size_ne_ok_of_exactRate_le_one _ along loses

end Snapshot

namespace Scenario

/-- A vault that offers all of its operations at a spread of exactly one, so that rounding is all
that keeps its prices apart. -/
def narrowVault : Vault where
  per := ⟨1234567890123456789012345678⟩
  tag := ⟨333333333333333333333⟩
  gap := .one
  joy := .ofUnits 1000
  woe := .ofUnits 1000
  fog := .ofUnits 10
  off := false
  feed := ⟨.ofUnits 333, true⟩

/-- A dead order, one that pays in the token it asks, and one of a token that is not traded. -/
def idleOrders : List Order := [
  ⟨.ofNat 1, tokens.skr, .zero, tokens.gem, .ofUnits 100, maker⟩,
  ⟨.ofNat 2, tokens.gem, .ofUnits 2, tokens.gem, .ofUnits 1, maker⟩,
  ⟨.ofNat 3, maker, .ofUnits 2, tokens.gem, .ofUnits 1, maker⟩]

end Scenario

namespace Snapshot

open Scenario

def narrowState : MarketState := ⟨1, narrowVault, idleOrders, .ofUnits 1000⟩

/-- Any gain at all is worth trading for, so that nothing but the prices keeps this strategy from
trading. -/
def skrStrategy : Strategy := ⟨Scenario.tokens.skr, .zero, .ofUnits 100, 3, false⟩

/-- Two cycles go through the vault, by gem and by sai, and neither is chosen. -/
theorem evaluate_quiet_narrow :
    Scenario.tokens.Distinct ∧ Scenario.tokens.contains skrStrategy.base = true ∧
      (.one : Wad) ≤ narrowVault.gap ∧ Quiet Scenario.tokens idleOrders ∧
      ∃ s, take narrowState skrStrategy Scenario.tokens = .ok s ∧
        s.graph.cycles s.base 3 = [[1, 0], [2, 3]] ∧
        ((Sizing.ofSnapshot skrStrategy s).evaluate s.graph (s.graph.cycles s.base 3)).best =
          none := by
  have distinct : Scenario.tokens.Distinct := ⟨by decide, by decide, by decide⟩
  have known : Scenario.tokens.contains skrStrategy.base = true := by decide
  have quiet : Quiet Scenario.tokens idleOrders := (quiet_iff distinct).mpr (by decide)
  have upright : (.one : Wad) ≤ narrowVault.gap := by decide
  obtain ⟨s, taken, -, none⟩ :=
    @evaluate_quiet Scenario.tokens narrowState skrStrategy distinct known (by decide) upright quiet
  have listed : orderEdges Scenario.tokens narrowState.orders = [] := by
    rw [orderEdges, List.mergeSort_of_pairwise (by decide)]
    decide
  have cycles : (take narrowState skrStrategy Scenario.tokens).map
      (fun s => s.graph.cycles s.base 3) = .ok [[1, 0], [2, 3]] := by
    rw [take, listed]
    decide +kernel
  rw [taken] at cycles
  exact ⟨distinct, known, upright, quiet, s, taken, Except.ok.inj cycles, none⟩

/-- An inverted spread is another matter: boom and bust together gain. -/
example : (do
    let inverted := { narrowVault with gap := ⟨999 * 10 ^ 15⟩ }
    let sold ← inverted.edge? vaultAssets .boom
    let bought ← inverted.edge? vaultAssets .bust
    return (sold.rate.compose bought.rate).exceedsUnity) = some true := by
  decide

end Snapshot

end Arbitrage
