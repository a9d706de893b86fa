import Arbitrage.Cycle.Selection
import Arbitrage.Proofs.Cycle.Plan

/-!
# The bottleneck of a path

The bottleneck is computed from exact rates with one rounding for each edge, a plan by rounding at
every edge. The two agree: the inputs up to the bottleneck are exactly those whose exact image at
every edge is within its capacity, and a plan stays below the exact images, so it can be derived for
each of them. Sizing therefore never meets a path that it cannot size.
-/

namespace Arbitrage.Sizing

/-- The exact image of an input at an edge is what the edges before it make of it. -/
def FitsExactly (edges : List Edge) (x : Wad) : Prop :=
  ∀ i (h : i < edges.length), ∀ limit ∈ edges[i].maxInput?,
    (x.raw : ℚ) * exactRate (edges.take i) ≤ limit.raw

theorem le_tighten_iff {bound : Option Wad} {limit x : Wad} :
    x ≤ tighten bound limit ↔ (∀ b ∈ bound, x ≤ b) ∧ x ≤ limit := by
  simp only [tighten]
  cases bound with
  | none => simp
  | some b =>
      simp only [Option.mem_some_iff, forall_eq', Amount.le_def]
      split <;> omega

theorem le_narrow_cons_iff (bound : Option Wad) {reached : Rate} (pos : 0 < reached.denominator)
    (edge : Edge) (edges : List Edge) (x : Wad) :
    ∃ bound' : Option Wad, narrow bound reached (edge :: edges) =
        narrow bound' (reached.compose edge.rate) edges ∧
      ((∀ b ∈ bound', x ≤ b) ↔ (∀ b ∈ bound, x ≤ b) ∧
        ∀ limit ∈ edge.maxInput?, (x.raw : ℚ) * reached.value ≤ limit.raw) := by
  refine ⟨_, rfl, ?_⟩
  cases capacity : edge.maxInput? with
  | none => simp
  | some limit =>
      have exact := Rate.le_maxInput?_iff pos x limit
      simp only [Option.bind_some, Option.mem_some_iff, forall_eq']
      rw [← exact]
      cases reached.maxInput? limit with
      | none => simp
      | some largest => simp [le_tighten_iff]

theorem le_narrow_iff {bound : Option Wad} {reached : Rate} (pos : 0 < reached.denominator)
    {edges : List Edge} {x : Wad} :
    (∀ b ∈ narrow bound reached edges, x ≤ b) ↔ (∀ b ∈ bound, x ≤ b) ∧
      ∀ i (h : i < edges.length), ∀ limit ∈ edges[i].maxInput?,
        (x.raw : ℚ) * (reached.value * exactRate (edges.take i)) ≤ limit.raw := by
  induction edges generalizing bound reached with
  | nil => simp [narrow]
  | cons edge edges ih =>
      obtain ⟨bound', step, first⟩ := le_narrow_cons_iff bound pos edge edges x
      have pos' : 0 < (reached.compose edge.rate).denominator :=
        Nat.mul_pos pos edge.rate_denominator_pos
      rw [step, ih pos', first, and_assoc]
      refine and_congr_right fun _ => ?_
      constructor
      · rintro ⟨here, later⟩ i h limit capacity
        cases i with
        | zero => simpa using here limit capacity
        | succ i => simpa [mul_assoc] using later i (by simpa using h) limit capacity
      · intro all
        constructor
        · intro limit capacity
          simpa using all 0 (by simp) limit capacity
        · intro i h limit capacity
          simpa [mul_assoc] using all (i + 1) (by simpa using h) limit capacity

section Path

variable {g : Graph} {path : Path} {edges : List Edge}

/-- An input is within the bottleneck exactly if it fits every edge without rounding. -/
theorem le_bottleneck?_iff (known : g.pathEdges path = .ok edges) {x : Wad} :
    (∀ b ∈ bottleneck? g path, x ≤ b) ↔ FitsExactly edges x := by
  rw [bottleneck?, known]
  simp only [le_narrow_iff (show 0 < Rate.unity.denominator by decide), FitsExactly,
    Rate.value_unity, one_mul]
  simp

/-- Rounding down on the way keeps an input that fits exactly within every capacity. -/
theorem FitsExactly.through_le {x : Wad} (fits : FitsExactly edges x) :
    ∀ i (h : i < edges.length), ∀ limit ∈ edges[i].maxInput?, through (edges.take i) x ≤ limit := by
  intro i h limit capacity
  have below := raw_through_le (edges.take i) x
  exact_mod_cast below.trans (fits i h limit capacity)

theorem FitsExactly.exists_derive (wf : g.WellFormed) (nonempty : path ≠ [])
    (known : g.pathEdges path = .ok edges) {x : Wad} (fits : FitsExactly edges x) :
    ∃ plan, Plan.derive g path x = .ok plan :=
  (Plan.exists_derive_iff wf known).mpr ⟨nonempty, fits.through_le⟩

variable (s : Sizing)

/-- What goes in is the lesser of the bottleneck and the cap; where no edge sets a limit it is the
cap. -/
theorem le_engagement_iff {x : Wad} :
    x ≤ (s.engagement g path).1 ↔ (∀ b ∈ bottleneck? g path, x ≤ b) ∧ x ≤ s.cap := by
  rw [engagement]
  cases bottleneck? g path with
  | none => simp
  | some limit =>
      simp only [Option.mem_some_iff, forall_eq', Amount.lt_def]
      split <;> simp only [Amount.le_def] <;> omega

theorem engagement_capped_iff (g : Graph) (path : Path) :
    (s.engagement g path).2 = true ↔ ∀ b ∈ bottleneck? g path, s.cap < b := by
  rw [engagement]
  cases bottleneck? g path with
  | none => simp
  | some limit =>
      simp only [Option.mem_some_iff, forall_eq', Amount.lt_def]
      split
      · simp only [Bool.false_eq_true, false_iff]
        omega
      · simp

theorem le_cap_make_iff {minProfit maxEngagement balance x : Wad} :
    x ≤ (make minProfit maxEngagement balance).cap ↔ x ≤ maxEngagement ∧ x ≤ balance := by
  simp only [make, Amount.lt_def]
  split <;> simp only [Amount.le_def] <;> omega

/-- The decision about a path whose plan can be derived: it depends on the plan and on the bounds,
and no longer on the path. -/
theorem size_of_derive {plan : Plan}
    (derived : Plan.derive g path (s.engagement g path).1 = .ok plan) :
    s.size g path =
      let e := (s.engagement g path).1
      if e.raw = 0 then .error ⟨path, .zero, .zero, .noCapacity⟩
      else if plan.output ≤ e then .error ⟨path, e, plan.output, .unprofitable⟩
      else if plan.output.raw - e.raw < s.minProfit.raw then
        .error ⟨path, e, plan.output, .belowMinProfit (s.engagement g path).2⟩
      else .ok plan := by
  obtain ⟨-, _, _, -, -, rfl⟩ := Plan.derive_eq_ok_iff.mp derived
  rw [size]
  simp only [derived, Amount.isZero, beq_iff_eq, Plan.isProfitable, Plan.profit, Amount.lt_def,
    Amount.le_def, Amount.raw_monus, Bool.not_eq_true', decide_eq_false_iff_not, Nat.not_lt]

/-- Of the plan at its engagement a path is accepted exactly if something goes in, more comes out, and
the gain is worth trading for. -/
theorem size_eq_ok_iff_of_derive {plan p : Plan}
    (derived : Plan.derive g path (s.engagement g path).1 = .ok plan) :
    s.size g path = .ok p ↔ p = plan ∧ 0 < (s.engagement g path).1.raw ∧
      (s.engagement g path).1 < plan.output ∧
      s.minProfit.raw ≤ plan.output.raw - (s.engagement g path).1.raw := by
  simp only [size_of_derive s derived, Amount.lt_def, Amount.le_def]
  split
  · simp only [reduceCtorEq, false_iff]
    omega
  split
  · simp only [reduceCtorEq, false_iff]
    omega
  split
  · simp only [reduceCtorEq, false_iff]
    omega
  · rw [Except.ok.injEq]
    constructor
    · rintro rfl
      exact ⟨rfl, by omega⟩
    · rintro ⟨rfl, -⟩
      rfl

/-- A path whose plan can be derived is rejected for one of three reasons, of which the last tells
whether the cap limits it. -/
theorem reason_of_size_error {plan : Plan} {c : Candidate}
    (derived : Plan.derive g path (s.engagement g path).1 = .ok plan)
    (rejected : s.size g path = .error c) :
    c.path = path ∧ (c.reason = .noCapacity ↔ (s.engagement g path).1.raw = 0) ∧
      ∀ capped, c.reason = .belowMinProfit capped → capped = (s.engagement g path).2 := by
  rw [size_of_derive s derived] at rejected
  dsimp only at rejected
  split at rejected
  · next zero =>
      cases rejected
      exact ⟨rfl, iff_of_true rfl zero, nofun⟩
  next some =>
  split at rejected
  · cases rejected
    exact ⟨rfl, iff_of_false nofun some, nofun⟩
  split at rejected
  · cases rejected
    refine ⟨rfl, iff_of_false nofun some, ?_⟩
    rintro _ ⟨⟩
    rfl
  · cases rejected

end Path

/-- The bottleneck of a path is exact and safe. An input is within it exactly if its unrounded image
at every edge is within the capacity of that edge. For each such input the amounts that are rounded
down on the way are within the capacities as well, and the plan that carries these amounts is derived.
So sizing rejects nothing but an engagement of zero, a plan that does not gain, and one that gains too
little. The engagement is the least of the bottleneck, the configured maximum and the balance. -/
theorem bottleneck_exact {g : Graph} (built : g.Built) {path : Path} (nonempty : path ≠ [])
    (known : ∀ id ∈ path, id < g.edges.size) (minProfit maxEngagement balance : Wad) :
    ∃ edges e plan, g.pathEdges path = .ok edges ∧
      (∀ x : Wad, (∀ b ∈ bottleneck? g path, x ≤ b) ↔
        ∀ i (h : i < edges.length), ∀ limit ∈ edges[i].maxInput?,
          (x.raw : ℚ) * ((edges.take i).map fun e => e.rate.value).prod ≤ limit.raw) ∧
      (∀ x : Wad, (∀ b ∈ bottleneck? g path, x ≤ b) →
        (∀ i (h : i < edges.length), ∀ limit ∈ edges[i].maxInput?,
          through (edges.take i) x ≤ limit) ∧
        ∃ p, Plan.derive g path x = .ok p ∧ p.Carries path edges x) ∧
      (∀ x : Wad, x ≤ e ↔ (∀ b ∈ bottleneck? g path, x ≤ b) ∧ x ≤ maxEngagement ∧ x ≤ balance) ∧
      Plan.derive g path e = .ok plan ∧ plan.Carries path edges e ∧
      (∀ p, (make minProfit maxEngagement balance).size g path = .ok p ↔
        p = plan ∧ 0 < e.raw ∧ e < plan.output ∧ minProfit.raw ≤ plan.output.raw - e.raw) ∧
      (∀ c, (make minProfit maxEngagement balance).size g path = .error c →
        c.path = path ∧ (c.reason = .noCapacity ↔ e.raw = 0) ∧
        ∀ capped, c.reason = .belowMinProfit capped →
          (capped = true ↔ ∀ b ∈ bottleneck? g path,
            (make minProfit maxEngagement balance).cap < b)) := by
  obtain ⟨edges, path_known⟩ := Graph.exists_pathEdges known
  let s := make minProfit maxEngagement balance
  have safe : ∀ x : Wad, (∀ b ∈ bottleneck? g path, x ≤ b) →
      (∀ i (h : i < edges.length), ∀ limit ∈ edges[i].maxInput?,
        through (edges.take i) x ≤ limit) ∧
      ∃ p, Plan.derive g path x = .ok p ∧ p.Carries path edges x := by
    intro x within
    have fits := (le_bottleneck?_iff path_known).mp within
    obtain ⟨p, derived⟩ := fits.exists_derive built.wellFormed nonempty path_known
    exact ⟨fits.through_le, p, derived, Plan.carries_of_derive path_known derived⟩
  have least : ∀ x : Wad, x ≤ (s.engagement g path).1 ↔
      (∀ b ∈ bottleneck? g path, x ≤ b) ∧ x ≤ maxEngagement ∧ x ≤ balance := by
    intro x
    rw [le_engagement_iff, le_cap_make_iff]
  obtain ⟨-, plan, derived, carries⟩ := safe _ ((least _).mp (Nat.le_refl _)).1
  refine ⟨edges, _, plan, path_known, fun x => le_bottleneck?_iff path_known, safe, least, derived,
    carries, fun p => s.size_eq_ok_iff_of_derive derived, ?_⟩
  intro c rejected
  obtain ⟨same, capacity, limited⟩ := s.reason_of_size_error derived rejected
  refine ⟨same, capacity, fun capped below => ?_⟩
  rw [limited capped below]
  exact s.engagement_capped_iff g path

/-- An order that pays twice what it buys, and a vault operation at half a unit for one of which at
most one unit comes out. -/
def limitedLoop : Graph where
  assets := #[⟨"sai", .repeated 0x33⟩, ⟨"skr", .repeated 0x22⟩]
  edges := #[⟨0, 1, .order (.ofNat 1) (.ofUnits 6) (.ofUnits 2)⟩,
    ⟨1, 0, .fixedPrice .boom ⟨500000000000000000⟩ (.output .one)⟩]
  leaving := #[[0], [1]]

theorem limitedLoop_built : limitedLoop.Built :=
  .of_build (show Graph.build limitedLoop.assets.toList limitedLoop.edges.toList = _ by decide +kernel)

/-- The loop is limited by what comes out at its end: three for one there leave two thirds of a unit
to go in. That is where it is sized, with a third of a unit gained; a raw unit more cannot go in. -/
theorem bottleneck_exact_limitedLoop :
    limitedLoop.Built ∧ ([0, 1] : Path) ≠ [] ∧ (∀ id ∈ ([0, 1] : Path), id < limitedLoop.edges.size) ∧
      bottleneck? limitedLoop [0, 1] = some ⟨666666666666666666⟩ ∧
      ∃ p, Plan.derive limitedLoop [0, 1] ⟨666666666666666666⟩ = .ok p ∧
        p.Carries [0, 1] limitedLoop.edges.toList ⟨666666666666666666⟩ ∧
        (p.steps.map fun step => (step.amountIn.raw, step.amountOut.raw)) =
          [(666666666666666666, 1999999999999999998), (1999999999999999998, 999999999999999999)] ∧
        p.output = ⟨999999999999999999⟩ ∧ (make .zero .one .one).size limitedLoop [0, 1] = .ok p ∧
        (Plan.derive limitedLoop [0, 1] ⟨666666666666666667⟩).isOk = false := by
  have known : ∀ id ∈ ([0, 1] : Path), id < limitedLoop.edges.size := by decide
  have bound : bottleneck? limitedLoop [0, 1] = some ⟨666666666666666666⟩ := by decide
  obtain ⟨edges, e, plan, path_known, -, safe, least, derived, carries, sized, -⟩ :=
    bottleneck_exact limitedLoop_built (by decide) known .zero .one .one
  obtain rfl : limitedLoop.edges.toList = edges := Except.ok.inj path_known
  -- The engagement is the bottleneck, since a whole unit may go in and is there.
  obtain rfl : e = ⟨666666666666666666⟩ := by
    have within : ∀ x, x ≤ e ↔ x ≤ ⟨666666666666666666⟩ ∧ x ≤ .one ∧ x ≤ .one := by
      simpa [bound] using least
    refine Amount.ext (Nat.le_antisymm ((within e).mp (Nat.le_refl _)).1 ?_)
    exact (within ⟨666666666666666666⟩).mpr (by decide)
  have steps : (plan.steps.map fun step => (step.amountIn.raw, step.amountOut.raw)) =
      [(666666666666666666, 1999999999999999998), (1999999999999999998, 999999999999999999)] := by
    cases derived
    rfl
  have output : plan.output = ⟨999999999999999999⟩ := by
    cases derived
    rfl
  refine ⟨limitedLoop_built, by decide, known, bound, plan, derived, carries, steps, output,
    (sized plan).mpr ⟨rfl, by decide, ?_⟩, by decide⟩
  rw [output]
  decide

end Arbitrage.Sizing
