import Arbitrage.Proofs.Cycle.Sizing
import Mathlib.Algebra.BigOperators.Group.Finset.Basic
import Mathlib.Algebra.Order.Floor.Semifield
import Mathlib.Data.Rat.Floor
import Mathlib.Tactic.Ring

/-!
# What rounding loses on the way

An amount is rounded down at every edge of a path, and what is lost at one edge is carried through
all edges behind it. So the amount that comes out is at most the exact product, rounded down once,
and above the exact product less what one raw unit at each edge becomes by the end of the path
(`slack`). All roundings are monotone, so a path that can be sized for an input can be sized for
every smaller one.
-/

namespace Arbitrage

section Rates

variable {r : Rate} {a b : Wad}

theorem Rate.raw_apply_eq_floor (r : Rate) (a : Wad) :
    (r.apply a).raw = ⌊(a.raw : ℚ) * r.value⌋₊ := by
  rw [raw_apply, value, ← mul_div_assoc, ← Nat.cast_mul, Nat.floor_div_eq_div]

theorem Rate.lt_raw_apply (r : Rate) (a : Wad) : (a.raw : ℚ) * r.value - 1 < (r.apply a).raw := by
  rw [raw_apply_eq_floor]
  exact Nat.sub_one_lt_floor _

/-- What comes out is the largest amount within the exact product: rounding down is a Galois
connection. -/
theorem Rate.le_apply_iff : b ≤ r.apply a ↔ (b.raw : ℚ) ≤ a.raw * r.value := by
  rw [Amount.le_def, raw_apply_eq_floor]
  exact Nat.le_floor_iff (mul_nonneg (Nat.cast_nonneg _) r.value_nonneg)

theorem Graph.value_chainRate (edges : List Edge) :
    (chainRate edges).value = exactRate edges := by
  have from_here : ∀ r : Rate, (edges.foldl (fun r e => r.compose e.rate) r).value =
      r.value * exactRate edges := by
    induction edges with
    | nil => simp
    | cons e edges ih =>
        intro r
        rw [List.foldl_cons, ih, Rate.value_compose, exactRate_cons, mul_assoc]
  rw [chainRate, from_here, Rate.value_unity, one_mul]

theorem Graph.pathRate_of_pathEdges {g : Graph} {path : Path} {edges : List Edge}
    (known : g.pathEdges path = .ok edges) : g.pathRate path = .ok (chainRate edges) := by
  rw [pathRate, known]
  rfl

end Rates

section Through

variable {edges : List Edge} {x y : Wad}

/-- What rounding may lose on some edges: a raw unit behind each of them, at the end of them all. -/
def slack (edges : List Edge) : ℚ :=
  ∑ i ∈ Finset.range edges.length, exactRate (edges.drop (i + 1))

@[simp] theorem slack_nil : slack [] = 0 := rfl

@[simp] theorem slack_cons (e : Edge) (edges : List Edge) :
    slack (e :: edges) = exactRate edges + slack edges := by
  simp [slack, Finset.sum_range_succ', add_comm]

theorem through_take_succ (x : Wad) {i : ℕ} (h : i < edges.length) :
    through (edges.take (i + 1)) x = edges[i].output (through (edges.take i) x) := by
  rw [through, List.take_succ_eq_append_getElem h, List.foldl_append]
  rfl

theorem through_mono (edges : List Edge) (le : y ≤ x) : through edges y ≤ through edges x := by
  induction edges generalizing x y with
  | nil => exact le
  | cons e edges ih => exact ih (e.output_mono le)

/-- A unit lost at the first edge is worth what the edges behind it make of it, so that the slack of
a path is made up from its end. -/
theorem sub_slack_cons_le (e : Edge) (edges : List Edge) (x : Wad) :
    (x.raw : ℚ) * exactRate (e :: edges) - slack (e :: edges) ≤
      (e.output x).raw * exactRate edges - slack edges := by
  have first : (x.raw : ℚ) * e.rate.value - 1 ≤ (e.output x).raw := (e.rate.lt_raw_apply x).le
  calc (x.raw : ℚ) * exactRate (e :: edges) - slack (e :: edges)
      = (x.raw * e.rate.value - 1) * exactRate edges - slack edges := by
        rw [exactRate_cons, slack_cons]
        ring
    _ ≤ (e.output x).raw * exactRate edges - slack edges :=
        sub_le_sub_right (mul_le_mul_of_nonneg_right first (exactRate_nonneg edges)) _

/-- What comes out is above the exact product less the slack. The last edge loses less than a whole
unit, so the bound is never reached. -/
theorem sub_slack_lt (nonempty : edges ≠ []) (x : Wad) :
    (x.raw : ℚ) * exactRate edges - slack edges < (through edges x).raw := by
  induction edges generalizing x with
  | nil => exact absurd rfl nonempty
  | cons e edges ih =>
      cases edges with
      | nil =>
          simp only [exactRate_cons, exactRate_nil, mul_one, slack_cons, slack_nil, add_zero]
          exact e.rate.lt_raw_apply x
      | cons f edges =>
          calc (x.raw : ℚ) * exactRate (e :: f :: edges) - slack (e :: f :: edges)
              ≤ (e.output x).raw * exactRate (f :: edges) - slack (f :: edges) :=
                sub_slack_cons_le e (f :: edges) x
            _ < (through (f :: edges) (e.output x)).raw := ih (List.cons_ne_nil _ _) (e.output x)

end Through

namespace Plan

variable {g : Graph} {path : Path} {edges : List Edge} {x y : Wad}

/-- A smaller input meets no capacity that a larger one does not, because every edge is monotone. -/
theorem exists_derive_of_le (wf : g.WellFormed) {plan : Plan} (derived : derive g path x = .ok plan)
    (le : y ≤ x) : ∃ less, derive g path y = .ok less := by
  obtain ⟨-, edges, -, known, -, -⟩ := derive_eq_ok_iff.mp derived
  obtain ⟨nonempty, within⟩ := (exists_derive_iff wf known).mp ⟨plan, derived⟩
  refine (exists_derive_iff wf known).mpr ⟨nonempty, ?_⟩
  intro i h limit capacity
  exact Nat.le_trans (through_mono _ le) (within i h limit capacity)

theorem Carries.amounts_le {less plan : Plan} (small : less.Carries path edges y)
    (large : plan.Carries path edges x) (le : y ≤ x) :
    List.Forall₂ (fun s t => s.amountIn ≤ t.amountIn ∧ s.amountOut ≤ t.amountOut)
      less.steps plan.steps := by
  refine List.forall₂_iff_get.mpr ⟨small.length_eq.trans large.length_eq.symm, ?_⟩
  intro i h₁ h₂
  obtain ⟨-, -, in₁, out₁⟩ := small.step i _ (List.getElem?_eq_getElem h₁)
  obtain ⟨-, -, in₂, out₂⟩ := large.step i _ (List.getElem?_eq_getElem h₂)
  rw [List.get_eq_getElem, List.get_eq_getElem, in₁, in₂, out₁, out₂]
  exact ⟨through_mono _ le, through_mono _ le⟩

/-- A plan can be derived exactly if the path is not empty and every edge admits what reaches it,
rounded down at each edge before it, and it then carries exactly these amounts. What comes out is at
most the exact product rounded down once, and above it less what a raw unit lost at each edge becomes
by the end. Every smaller input gives a plan as well, with no amount above the corresponding one. -/
theorem derive_rounds (built : g.Built) (known : ∀ id ∈ path, id < g.edges.size) (x : Wad) :
    ∃ edges rate, g.pathEdges path = .ok edges ∧ g.pathRate path = .ok rate ∧
      (∀ i (h : i < edges.length), (through (edges.take (i + 1)) x).raw =
        ⌊((through (edges.take i) x).raw : ℚ) * edges[i].rate.value⌋₊) ∧
      ((∃ plan, derive g path x = .ok plan) ↔ path ≠ [] ∧ ∀ i (h : i < edges.length),
        ∀ limit ∈ edges[i].maxInput?, through (edges.take i) x ≤ limit) ∧
      ∀ plan, derive g path x = .ok plan →
        plan.Carries path edges x ∧ plan.output ≤ rate.apply x ∧
        (x.raw : ℚ) * rate.value - ∑ i ∈ Finset.range edges.length,
            ((edges.drop (i + 1)).map fun e => e.rate.value).prod < plan.output.raw ∧
        ∀ y ≤ x, ∃ less, derive g path y = .ok less ∧ less.Carries path edges y ∧
          List.Forall₂ (fun s t => s.amountIn ≤ t.amountIn ∧ s.amountOut ≤ t.amountOut)
            less.steps plan.steps := by
  obtain ⟨edges, path_known⟩ := Graph.exists_pathEdges known
  have exact := Graph.value_chainRate edges
  refine ⟨edges, Graph.chainRate edges, path_known, Graph.pathRate_of_pathEdges path_known, ?_,
    exists_derive_iff built.wellFormed path_known, ?_⟩
  · intro i h
    rw [through_take_succ x h]
    exact Rate.raw_apply_eq_floor _ _
  intro plan derived
  have carries := carries_of_derive path_known derived
  have nonempty : edges ≠ [] := Graph.pathEdges_ne_nil path_known (derive_eq_ok_iff.mp derived).1
  refine ⟨carries, ?_, ?_, ?_⟩
  · rw [Rate.le_apply_iff, exact, carries.output_eq]
    exact raw_through_le edges x
  · rw [exact, carries.output_eq]
    exact sub_slack_lt nonempty x
  · intro y le
    obtain ⟨less, derived'⟩ := exists_derive_of_le built.wellFormed derived le
    have carries' := carries_of_derive path_known derived'
    exact ⟨less, derived', carries', carries'.amounts_le carries le⟩

open Sizing in
/-- Three for one and then one for two: half a raw unit is lost at the second edge, and a single raw
unit, which loses as much, goes through as well. -/
theorem derive_rounds_limitedLoop :
    limitedLoop.Built ∧ (∀ id ∈ ([0, 1] : Path), id < limitedLoop.edges.size) ∧
      ∃ plan less, derive limitedLoop [0, 1] ⟨333333333333333333⟩ = .ok plan ∧
        plan.output = ⟨499999999999999999⟩ ∧ derive limitedLoop [0, 1] ⟨1⟩ = .ok less ∧
        less.output = ⟨1⟩ ∧
        List.Forall₂ (fun s t => s.amountIn ≤ t.amountIn ∧ s.amountOut ≤ t.amountOut)
          less.steps plan.steps := by
  have known : ∀ id ∈ ([0, 1] : Path), id < limitedLoop.edges.size := by decide
  obtain ⟨plan, derived, output⟩ : ∃ plan, derive limitedLoop [0, 1] ⟨333333333333333333⟩ = .ok plan ∧
      plan.output = ⟨499999999999999999⟩ := ⟨_, rfl, rfl⟩
  obtain ⟨edges, rate, path_known, -, -, -, bounds⟩ :=
    derive_rounds limitedLoop_built known ⟨333333333333333333⟩
  obtain ⟨-, -, -, smaller⟩ := bounds plan derived
  obtain ⟨less, derived', -, amounts⟩ := smaller ⟨1⟩ (by decide)
  refine ⟨limitedLoop_built, known, plan, less, derived, output, derived', ?_, amounts⟩
  cases derived'
  rfl

end Plan

end Arbitrage
