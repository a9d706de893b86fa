import Arbitrage.Proofs.Cycle.Sizing
import Mathlib.Data.List.Lex
import Mathlib.Data.List.MinMax
import Mathlib.Data.Prod.Lex

/-!
# The plan that is chosen

Plans are compared by a rank, a tuple that is ordered lexicographically (`Plan.precedes_iff`), and the
evaluation keeps a plan of least rank among those accepted (`Sizing.best_evaluate`). The rank ends
with the path and the path decides the plan, so there is only one such plan, and the order in which
the candidates come makes no difference (`Sizing.evaluate_optimal`).

A candidate is accepted only with a plan that was derived for an input within the cap and that gains
enough (`Sizing.size_eq_ok`).
-/

namespace Arbitrage

namespace Plan

open OrderDual (toDual)

/-- What plans are ordered by, the preferred ones first: by profit from above, then by the number of
steps, by what goes in, and by path. -/
def rank (p : Plan) : Natᵒᵈ ×ₗ Nat ×ₗ Nat ×ₗ List Nat :=
  toLex (toDual p.profit.raw, toLex (p.length, toLex (p.engagement.raw, p.path)))

theorem precedes_iff {p q : Plan} : p.precedes q = true ↔ p.rank < q.rank := by
  simp only [precedes, beq_iff_eq, Ordering.then_eq_lt, rank, Prod.Lex.toLex_lt_toLex,
    OrderDual.toDual_lt_toDual, OrderDual.toDual_inj, compareOfLessAndEq_eq_lt, Nat.compare_eq_lt,
    Nat.compare_eq_eq]
  rw [eq_comm (a := q.profit.raw)]

/-- A plan is ranked behind another if it gains less, or else takes more steps, or else commits more,
or else does not come before it by path. -/
theorem rank_le_iff {p q : Plan} : p.rank ≤ q.rank ↔
    q.profit < p.profit ∨ q.profit = p.profit ∧ (p.length < q.length ∨ p.length = q.length ∧
      (p.engagement < q.engagement ∨ p.engagement = q.engagement ∧ ¬ q.path < p.path)) := by
  simp only [rank, Prod.Lex.toLex_le_toLex, OrderDual.toDual_lt_toDual, OrderDual.toDual_inj,
    Amount.lt_def, Amount.ext_iff, not_lt]
  rw [eq_comm (a := p.profit.raw)]

theorem path_eq_of_rank_eq {p q : Plan} (same : p.rank = q.rank) : p.path = q.path := by
  simp only [rank, EmbeddingLike.apply_eq_iff_eq, Prod.mk.injEq] at same
  exact same.2.2.2

end Plan

namespace Evaluation

theorem best_accept (ev : Evaluation) (plan : Plan) :
    (ev.accept plan).best = List.argAux (fun p q => p.rank < q.rank) ev.best plan := by
  cases before : ev.best with
  | none => simp [accept, before, List.argAux]
  | some p => simp [accept, before, List.argAux, Plan.precedes_iff]

theorem isSome_bestRejected_reject (ev : Evaluation) (candidate : Candidate) :
    (ev.reject candidate).bestRejected.isSome = true := by
  rw [reject]
  cases ev.bestRejected with
  | none => rfl
  | some best =>
      dsimp only
      split <;> rfl

end Evaluation

namespace Sizing

variable {s : Sizing} {g : Graph} {plan : Plan} {paths paths' : List Path}

/-- An accepted plan was derived for what goes in, and gains, and gains enough: nothing else is
asked of it. -/
theorem size_eq_ok {path : Path} (sized : s.size g path = .ok plan) :
    Plan.derive g path plan.engagement = .ok plan ∧ plan.engagement ≤ s.cap ∧
      0 < plan.profit.raw ∧ s.minProfit ≤ plan.profit ∧
      plan.engagement.raw + plan.profit.raw = plan.output.raw := by
  have within : (s.engagement g path).1 ≤ s.cap := ((le_engagement_iff s).mp (Nat.le_refl _)).2
  cases derived : Plan.derive g path (s.engagement g path).1 with
  | error e =>
      have rejected : s.size g path ≠ .ok plan := by
        rw [size]
        simp only [derived]
        split <;> simp
      exact absurd sized rejected
  | ok p =>
      have input : p.engagement = (s.engagement g path).1 := by
        obtain ⟨-, _, _, -, -, rfl⟩ := Plan.derive_eq_ok_iff.mp derived
        rfl
      obtain ⟨rfl, -, gains, enough⟩ := (s.size_eq_ok_iff_of_derive derived).mp sized
      rw [← input] at derived within gains enough
      simp only [Plan.profit, Amount.lt_def, Amount.le_def, Amount.raw_monus] at gains ⊢
      exact ⟨derived, within, by omega, enough, by omega⟩

theorem path_of_size {path : Path} (sized : s.size g path = .ok plan) :
    plan.path = path ∧ plan.length = path.length := by
  obtain ⟨derived, -⟩ := size_eq_ok sized
  exact ⟨Plan.path_of_derive derived, Plan.length_of_derive derived⟩

/-- The plans of the candidates that are accepted, in the order of their paths. -/
def accepted (s : Sizing) (g : Graph) (paths : List Path) : List Plan :=
  paths.filterMap fun path => (s.size g path).toOption

theorem mem_accepted : plan ∈ s.accepted g paths ↔ ∃ path ∈ paths, s.size g path = .ok plan := by
  simp only [accepted, List.mem_filterMap]
  refine exists_congr fun path => and_congr_right fun _ => ?_
  cases s.size g path <;> simp [Except.toOption]

/-- Accepted plans of the same rank are the same plan. -/
theorem eq_of_rank_eq {p q : Plan} (hp : p ∈ s.accepted g paths) (hq : q ∈ s.accepted g paths)
    (same : p.rank = q.rank) : p = q := by
  obtain ⟨path, -, sized⟩ := mem_accepted.mp hp
  obtain ⟨path', -, sized'⟩ := mem_accepted.mp hq
  have paths_eq : path = path' :=
    (path_of_size sized).1.symm.trans ((Plan.path_eq_of_rank_eq same).trans (path_of_size sized').1)
  rw [paths_eq] at sized
  exact Except.ok.inj (sized.symm.trans sized')

theorem foldl_consider (paths : List Path) (ev : Evaluation) :
    (paths.foldl (s.consider g) ev).best =
        (s.accepted g paths).foldl (List.argAux fun p q => p.rank < q.rank) ev.best ∧
      (paths.foldl (s.consider g) ev).candidates = ev.candidates ∧
      (paths.foldl (s.consider g) ev).accepted = ev.accepted + (s.accepted g paths).length ∧
      ((paths.foldl (s.consider g) ev).bestRejected.isSome = true ↔
        ev.bestRejected.isSome = true ∨ (s.accepted g paths).length < paths.length) := by
  induction paths generalizing ev with
  | nil => simp [accepted]
  | cons path paths ih =>
      obtain ⟨best, candidates, count, rejected⟩ := ih (s.consider g ev path)
      rw [List.foldl_cons, best, candidates, count, rejected]
      cases sized : s.size g path with
      | ok plan =>
          have considered : s.consider g ev path = ev.accept plan := by rw [consider, sized]
          have listed : s.accepted g (path :: paths) = plan :: s.accepted g paths := by
            simp [accepted, sized, Except.toOption]
          rw [considered, listed, Evaluation.best_accept]
          refine ⟨rfl, rfl, ?_, ?_⟩
          · show ev.accepted + 1 + _ = ev.accepted + (_ + 1)
            omega
          · show ev.bestRejected.isSome = true ∨ _ < _ ↔ _ ∨ _ + 1 < _ + 1
            rw [Nat.add_lt_add_iff_right]
      | error candidate =>
          have considered : s.consider g ev path = ev.reject candidate := by rw [consider, sized]
          have listed : s.accepted g (path :: paths) = s.accepted g paths := by
            simp [accepted, sized, Except.toOption]
          have fewer : (s.accepted g paths).length < (path :: paths).length :=
            Nat.lt_succ_of_le (List.length_filterMap_le _ _)
          rw [considered, listed]
          refine ⟨rfl, rfl, rfl, ?_⟩
          exact iff_of_true (.inl (ev.isSome_bestRejected_reject candidate)) (.inr fewer)

theorem best_evaluate (s : Sizing) (g : Graph) (paths : List Path) :
    (s.evaluate g paths).best = (s.accepted g paths).argmin Plan.rank := (foldl_consider paths _).1

theorem exists_size_of_best (best : (s.evaluate g paths).best = some plan) :
    ∃ path ∈ paths, s.size g path = .ok plan := by
  rw [best_evaluate] at best
  exact mem_accepted.mp (List.argmin_mem best)

/-- The best plan does not depend on the order of the candidates, since no two accepted plans of one
rank differ. -/
theorem best_evaluate_perm (perm : paths.Perm paths') :
    (s.evaluate g paths').best = (s.evaluate g paths).best := by
  have plans : (s.accepted g paths).Perm (s.accepted g paths') := perm.filterMap _
  rw [best_evaluate, best_evaluate]
  cases first : (s.accepted g paths).argmin Plan.rank with
  | none =>
      rw [List.argmin_eq_none] at first ⊢
      rw [first] at plans
      exact plans.nil_eq.symm
  | some p =>
      have hp : p ∈ s.accepted g paths := List.argmin_mem first
      cases second : (s.accepted g paths').argmin Plan.rank with
      | none =>
          rw [List.argmin_eq_none.mp second] at plans
          rw [plans.eq_nil] at hp
          cases hp
      | some q =>
          have hq : q ∈ s.accepted g paths := plans.mem_iff.mpr (List.argmin_mem second)
          have below : p.rank ≤ q.rank := List.le_of_mem_argmin hq first
          have above : q.rank ≤ p.rank := List.le_of_mem_argmin (plans.mem_iff.mp hp) second
          rw [eq_of_rank_eq hp hq (le_antisymm below above)]

/-- An evaluation of candidates has the best of them, and counts them. A best plan is there exactly
if any candidate was accepted. -/
structure Optimal (s : Sizing) (g : Graph) (paths : List Path) (ev : Evaluation) : Prop where
  best_eq_none_iff : ev.best = none ↔ ∀ path ∈ paths, ∀ plan, s.size g path ≠ .ok plan
  best_accepted : ∀ best, ev.best = some best → ∃ path ∈ paths, s.size g path = .ok best
  /-- Every accepted plan gains less than the best one, or else has a longer path, or else commits
  more, or else does not come before it by path. -/
  best_least : ∀ best, ev.best = some best → ∀ path ∈ paths, ∀ plan, s.size g path = .ok plan →
    plan.profit < best.profit ∨ plan.profit = best.profit ∧
      (best.path.length < plan.path.length ∨ best.path.length = plan.path.length ∧
        (best.engagement < plan.engagement ∨ best.engagement = plan.engagement ∧
          ¬ plan.path < best.path))
  candidates_eq : ev.candidates = paths.length
  accepted_eq : ev.accepted = (s.accepted g paths).length
  rejected_iff : ev.bestRejected.isSome = true ↔ ev.accepted < ev.candidates

theorem optimal_evaluate (s : Sizing) (g : Graph) (paths : List Path) :
    s.Optimal g paths (s.evaluate g paths) := by
  obtain ⟨-, candidates, count, rejected⟩ :=
    foldl_consider (s := s) (g := g) paths { candidates := paths.length }
  rw [Nat.zero_add] at count
  constructor
  · rw [best_evaluate, List.argmin_eq_none, List.eq_nil_iff_forall_not_mem]
    simp only [mem_accepted, not_exists, not_and]
    exact ⟨fun none path listed plan => none plan path listed,
      fun none plan path listed => none path listed plan⟩
  · intro best kept
    exact exists_size_of_best kept
  · intro best kept path listed plan sized
    obtain ⟨path', -, sized'⟩ := exists_size_of_best kept
    rw [best_evaluate] at kept
    have least := List.le_of_mem_argmin (mem_accepted.mpr ⟨path, listed, sized⟩) kept
    obtain ⟨same, length⟩ := path_of_size sized
    obtain ⟨same', length'⟩ := path_of_size sized'
    rw [Plan.rank_le_iff] at least
    rw [length, length', ← same, ← same'] at least
    exact least
  · exact candidates
  · exact count
  · rw [evaluate, rejected, count, candidates]
    simp

/-- The evaluation finds the best of the candidates, and it finds the same in whatever order they
come. -/
theorem evaluate_optimal (s : Sizing) (g : Graph) (perm : paths.Perm paths') :
    s.Optimal g paths (s.evaluate g paths) ∧
      (s.evaluate g paths').best = (s.evaluate g paths).best ∧
      (s.evaluate g paths').candidates = (s.evaluate g paths).candidates ∧
      (s.evaluate g paths').accepted = (s.evaluate g paths).accepted := by
  have optimal := s.optimal_evaluate g paths
  have optimal' := s.optimal_evaluate g paths'
  refine ⟨optimal, best_evaluate_perm perm, ?_, ?_⟩
  · rw [optimal.candidates_eq, optimal'.candidates_eq, perm.length_eq]
  · rw [optimal.accepted_eq, optimal'.accepted_eq]
    exact (perm.filterMap _).length_eq.symm

/-- Two orders of the same terms, and a way back at par, so that nothing but the paths tells two
plans apart. -/
def twoWays : Graph where
  assets := #[⟨"sai", .repeated 0x33⟩, ⟨"skr", .repeated 0x22⟩]
  edges := #[⟨0, 1, .order (.ofNat 1) (.ofUnits 6) (.ofUnits 2)⟩,
    ⟨1, 0, .fixedPrice .boom .one .unbounded⟩,
    ⟨0, 1, .order (.ofNat 2) (.ofUnits 6) (.ofUnits 2)⟩]
  leaving := #[[0, 2], [1]]

/-- Two paths that gain the same, take as many steps and commit as much: the lexicographically smaller
is chosen, whichever comes first. -/
theorem evaluate_optimal_twoWays :
    ([[0, 1], [2, 1]] : List Path).Perm [[2, 1], [0, 1]] ∧
      ((make .one (.ofUnits 2) (.ofUnits 9)).evaluate twoWays [[0, 1], [2, 1]]).accepted = 2 ∧
      ((make .one (.ofUnits 2) (.ofUnits 9)).evaluate twoWays [[2, 1], [0, 1]]).best.map Plan.path =
        some [0, 1] := by
  have perm : ([[0, 1], [2, 1]] : List Path).Perm [[2, 1], [0, 1]] := .swap ..
  obtain ⟨-, best, -, -⟩ := evaluate_optimal (make .one (.ofUnits 2) (.ofUnits 9)) twoWays perm
  exact ⟨perm, by decide, by rw [best]; decide⟩

end Sizing

end Arbitrage
