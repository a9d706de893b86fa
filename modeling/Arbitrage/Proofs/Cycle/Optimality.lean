import Arbitrage.Proofs.Cycle.Pricing
import Arbitrage.Proofs.Cycle.Rounding
import Mathlib.Tactic.Linarith

/-!
# Why the largest input is the one to size at

Exact profits grow with the input where the exact rate of a path is above one, and are never
positive where it is not. Rounding disturbs this by no more than the slack of the path: no smaller
input gains as much as the largest one and the slack together, and on a path whose rate is at most
one no input gains at all.
-/

namespace Arbitrage

section Slack

variable {edges : List Edge} {x y : Wad}

theorem one_le_slack (nonempty : edges ≠ []) : 1 ≤ slack edges := by
  induction edges with
  | nil => exact absurd rfl nonempty
  | cons e edges ih =>
      rw [slack_cons]
      cases edges with
      | nil => simp
      | cons f edges => exact le_add_of_nonneg_of_le (exactRate_nonneg _) (ih (List.cons_ne_nil _ _))

/-- What a smaller input gains is less than what a larger one gains, and the slack. -/
theorem monus_through_lt (nonempty : edges ≠ []) (le : y ≤ x) :
    (((through edges y).monus y).raw : ℚ) < ((through edges x).monus x).raw + slack edges := by
  have gain : ((through edges x).raw : ℚ) ≤ ((through edges x).monus x).raw + x.raw := by
    rw [Amount.raw_monus]
    exact_mod_cast le_tsub_add
  have small := raw_through_le edges y
  have large := sub_slack_lt nonempty x
  have le : (y.raw : ℚ) ≤ x.raw := by exact_mod_cast le
  by_cases gains : y.raw < (through edges y).raw
  · -- The rate is above one, so the exact profit at `x` is the larger one.
    have exact : ((through edges y).raw : ℚ) = ((through edges y).monus y).raw + y.raw := by
      rw [Amount.raw_monus]
      exact_mod_cast (Nat.sub_add_cancel gains.le).symm
    have gains : (y.raw : ℚ) < (through edges y).raw := by exact_mod_cast gains
    have above : 1 < exactRate edges := by
      by_contra below
      have : (y.raw : ℚ) * exactRate edges ≤ y.raw :=
        mul_le_of_le_one_right (Nat.cast_nonneg _) (not_lt.mp below)
      linarith
    have grows : (y.raw : ℚ) * (exactRate edges - 1) ≤ x.raw * (exactRate edges - 1) :=
      mul_le_mul_of_nonneg_right le (sub_nonneg.mpr above.le)
    linarith
  · have none : ((through edges y).monus y).raw = 0 := by
      rw [Amount.raw_monus]
      omega
    rw [none]
    have := one_le_slack nonempty
    positivity

end Slack

namespace Sizing

variable {g : Graph} {path : Path} {edges : List Edge}

/-- Whatever is within the engagement gives a plan, the engagement being within the bottleneck. -/
theorem exists_derive_of_le_engagement (s : Sizing) (wf : g.WellFormed) (nonempty : path ≠ [])
    (known : g.pathEdges path = .ok edges) {x : Wad} (le : x ≤ (s.engagement g path).1) :
    ∃ plan, Plan.derive g path x = .ok plan := by
  have within := ((le_engagement_iff s).mp le).1
  exact ((le_bottleneck?_iff known).mp within).exists_derive wf nonempty known

/-- Whatever is decided about a path is about its engagement, a rejection of zero apart. -/
theorem size_of_derive_cases (s : Sizing) {chosen : Plan}
    (derived : Plan.derive g path (s.engagement g path).1 = .ok chosen) :
    s.size g path = .ok chosen ∨
      ∃ c, s.size g path = .error c ∧ c.engagement = (s.engagement g path).1 := by
  rw [size_of_derive s derived]
  dsimp only
  split
  · next zero => exact .inr ⟨_, rfl, Amount.ext zero.symm⟩
  split
  · exact .inr ⟨_, rfl, rfl⟩
  split
  · exact .inr ⟨_, rfl, rfl⟩
  · exact .inl rfl

/-- A path whose exact rate is at most one is rejected, as unprofitable if anything can go in. -/
theorem exists_size_of_exactRate_le_one (s : Sizing) (wf : g.WellFormed) (nonempty : path ≠ [])
    (known : g.pathEdges path = .ok edges) (rate : exactRate edges ≤ 1) :
    ∃ c, s.size g path = .error c ∧
      c.reason = if (s.engagement g path).1.raw = 0 then .noCapacity else .unprofitable := by
  obtain ⟨plan, derived⟩ := s.exists_derive_of_le_engagement wf nonempty known (Nat.le_refl _)
  have loses := Plan.output_le_of_exactRate_le_one known rate derived
  rw [size_of_derive s derived]
  dsimp only
  rw [if_pos loses]
  split
  · exact ⟨_, rfl, rfl⟩
  · exact ⟨_, rfl, rfl⟩

/-- Sizing at the largest input is the best choice up to rounding. Whatever is decided is about the
plan at the engagement, the lesser of the bottleneck and the cap. For every smaller input there is a
plan too, whose profit is below that of the chosen one and the slack of the path together. On a path
whose exact rate is at most one no input gains, and it is rejected as unprofitable under all bounds
that let anything in. -/
theorem size_nearly_optimal (built : g.Built) (nonempty : path ≠ [])
    (known : ∀ id ∈ path, id < g.edges.size) (s : Sizing) :
    ∃ edges rate chosen, g.pathEdges path = .ok edges ∧ g.pathRate path = .ok rate ∧
      (∀ x : Wad, x ≤ (s.engagement g path).1 ↔ (∀ b ∈ bottleneck? g path, x ≤ b) ∧ x ≤ s.cap) ∧
      Plan.derive g path (s.engagement g path).1 = .ok chosen ∧
      (s.size g path = .ok chosen ∨
        ∃ c, s.size g path = .error c ∧ c.engagement = (s.engagement g path).1) ∧
      (∀ y ≤ (s.engagement g path).1, ∃ plan, Plan.derive g path y = .ok plan ∧
        (plan.profit.raw : ℚ) < chosen.profit.raw + ∑ i ∈ Finset.range edges.length,
          ((edges.drop (i + 1)).map fun e => e.rate.value).prod) ∧
      (rate.value ≤ 1 → (∀ y plan, Plan.derive g path y = .ok plan → plan.isProfitable = false) ∧
        ∀ t : Sizing, ∃ c, t.size g path = .error c ∧
          c.reason = if (t.engagement g path).1.raw = 0 then .noCapacity else .unprofitable) := by
  obtain ⟨edges, path_known⟩ := Graph.exists_pathEdges known
  have wf := built.wellFormed
  have some_edges : edges ≠ [] := Graph.pathEdges_ne_nil path_known nonempty
  obtain ⟨chosen, derived⟩ := s.exists_derive_of_le_engagement wf nonempty path_known (Nat.le_refl _)
  refine ⟨edges, Graph.chainRate edges, chosen, path_known,
    Graph.pathRate_of_pathEdges path_known, fun x => le_engagement_iff s, derived,
    s.size_of_derive_cases derived, ?_, ?_⟩
  · intro y le
    obtain ⟨plan, smaller⟩ := s.exists_derive_of_le_engagement wf nonempty path_known le
    refine ⟨plan, smaller, ?_⟩
    have at_y := Plan.carries_of_derive path_known smaller
    have at_e := Plan.carries_of_derive path_known derived
    rw [Plan.profit, Plan.profit, at_y.output_eq, at_y.engagement_eq, at_e.output_eq,
      at_e.engagement_eq]
    exact monus_through_lt some_edges le
  · intro rate
    rw [Graph.value_chainRate] at rate
    constructor
    · intro y plan derived
      have loses := Plan.output_le_of_exactRate_le_one path_known rate derived
      rw [Plan.isProfitable, decide_eq_false_iff_not,
        (Plan.carries_of_derive path_known derived).engagement_eq]
      exact Nat.not_lt.mpr loses
    · intro t
      exact t.exists_size_of_exactRate_le_one wf nonempty path_known rate

/-- Ten for one and then one for twelve, in orders of a few raw units. -/
def coarseLoop : Graph where
  assets := #[⟨"sai", .repeated 0x33⟩, ⟨"skr", .repeated 0x22⟩]
  edges := #[⟨0, 1, .order (.ofNat 1) ⟨20⟩ ⟨200⟩⟩, ⟨1, 0, .order (.ofNat 2) ⟨240⟩ ⟨20⟩⟩]
  leaving := #[[0], [1]]

/-- With a cap of 109 the loop gains 11, and with 100 it would gain 20. The slack is 13. -/
theorem size_nearly_optimal_coarseLoop :
    coarseLoop.Built ∧ ([0, 1] : Path) ≠ [] ∧ (∀ id ∈ ([0, 1] : Path), id < coarseLoop.edges.size) ∧
      ∃ chosen plan, (⟨.zero, ⟨109⟩⟩ : Sizing).size coarseLoop [0, 1] = .ok chosen ∧
        Plan.derive coarseLoop [0, 1] ⟨100⟩ = .ok plan ∧ chosen.profit = ⟨11⟩ ∧
        plan.profit = ⟨20⟩ ∧ (plan.profit.raw : ℚ) < chosen.profit.raw + 13 := by
  have known : ∀ id ∈ ([0, 1] : Path), id < coarseLoop.edges.size := by decide
  have built : coarseLoop.Built := .of_build
    (show Graph.build coarseLoop.assets.toList coarseLoop.edges.toList = _ by decide +kernel)
  obtain ⟨edges, rate, chosen, path_known, -, -, derived, -, near, -⟩ :=
    size_nearly_optimal built (by decide) known ⟨.zero, ⟨109⟩⟩
  have slack : ∑ i ∈ Finset.range edges.length,
      ((edges.drop (i + 1)).map fun e => e.rate.value).prod = 13 := by
    cases path_known
    decide +kernel
  obtain ⟨plan, smaller, close⟩ := near ⟨100⟩ (by decide)
  rw [slack] at close
  cases derived
  cases smaller
  exact ⟨built, by decide, known, _, _, rfl, rfl, rfl, rfl, close⟩

end Sizing

end Arbitrage
