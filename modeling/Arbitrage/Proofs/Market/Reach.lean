import Arbitrage.Proofs.Cycle.Path
import Mathlib.Control.Monad.Basic

/-!
# What is within reach

`Reaches g hops a b` says that at most `hops` edges of a graph lead from `a` to `b`. The search looks
at an asset only once, when it first meets it, and all the same it finds exactly the assets within
reach of its start (`reachableWithin_exact`). That rests on its queue: whatever waits there is one
level of the search with what has been met of the next one behind it (`search_levels`), so each asset
is met by the fewest hops that lead to it, and the search is one by levels (`search_eq_spread`).

The invariant of the search by levels is `Explored`: whatever is one edge away from a reached asset
has been reached as well, unless that asset is still on the frontier. So whoever leaves the reached
assets passes through the frontier (`Explored.reaches`), and the search loses nothing by going on from
there.
-/

namespace Arbitrage.Graph

variable {g : Graph}

/-- At most `hops` edges of the graph lead from one asset to another. -/
def Reaches (g : Graph) (hops : Nat) (a b : AssetId) : Prop :=
  ∃ edges, Leads a edges b ∧ edges.length ≤ hops ∧ ∀ e ∈ edges, e ∈ g.edges

namespace Reaches

variable {hops hops' : Nat} {a b : AssetId}

theorem refl (g : Graph) (hops : Nat) (a : AssetId) : g.Reaches hops a a :=
  ⟨[], rfl, Nat.zero_le _, List.forall_mem_nil _⟩

theorem mono (reaches : g.Reaches hops a b) (le : hops ≤ hops') : g.Reaches hops' a b := by
  obtain ⟨edges, leads, short, known⟩ := reaches
  exact ⟨edges, leads, Nat.le_trans short le, known⟩

end Reaches

theorem reaches_zero_iff {a b : AssetId} : g.Reaches 0 a b ↔ a = b := by
  constructor
  · rintro ⟨edges, leads, short, -⟩
    obtain rfl := List.eq_nil_of_length_eq_zero (Nat.le_zero.mp short)
    exact leads
  · rintro rfl
    exact .refl g 0 a

theorem reaches_succ_iff {hops : Nat} {a b : AssetId} :
    g.Reaches (hops + 1) a b ↔
      a = b ∨ ∃ e ∈ g.edges, e.source = a ∧ g.Reaches hops e.target b := by
  constructor
  · rintro ⟨edges, leads, short, known⟩
    cases edges with
    | nil => exact .inl leads
    | cons e edges =>
        obtain ⟨first, others⟩ := List.forall_mem_cons.mp known
        exact .inr ⟨e, first, leads.1, edges, leads.2, Nat.le_of_succ_le_succ short, others⟩
  · rintro (rfl | ⟨e, known, rfl, edges, leads, short, others⟩)
    · exact .refl g _ a
    · exact ⟨e :: edges, ⟨rfl, leads⟩, Nat.succ_le_succ short,
        List.forall_mem_cons.mpr ⟨known, others⟩⟩

theorem WellFormed.mem_successors (wf : g.WellFormed) {a b : AssetId} :
    b ∈ g.successors a ↔ ∃ e ∈ g.edges, e.source = a ∧ e.target = b := by
  simp only [successors, List.mem_filterMap, Option.map_eq_some_iff, wf.mem_outboundOrNone]
  constructor
  · rintro ⟨id, ⟨e, found, source⟩, f, found', target⟩
    obtain rfl := Option.some.inj (found.symm.trans found')
    exact ⟨e, Array.mem_of_getElem? found, source, target⟩
  · rintro ⟨e, known, source, target⟩
    obtain ⟨id, found⟩ := Array.getElem?_of_mem known
    exact ⟨id, ⟨e, found, source⟩, e, found, target⟩

/-- What of some assets has not been reached yet, each of them once. -/
def fresh (reached : List AssetId) : List AssetId → List AssetId
  | [] => []
  | a :: assets =>
    if reached.contains a then fresh reached assets else a :: fresh (reached ++ [a]) assets

section Fresh

variable {reached assets : List AssetId} {a b : AssetId}

theorem fresh_cons_of_mem (old : a ∈ reached) : fresh reached (a :: assets) = fresh reached assets := by
  rw [fresh, if_pos (List.contains_iff_mem.mpr old)]

theorem fresh_cons_of_not_mem (new : a ∉ reached) :
    fresh reached (a :: assets) = a :: fresh (reached ++ [a]) assets := by
  rw [fresh, if_neg (fun old => new (List.contains_iff_mem.mp old))]

theorem mem_fresh : b ∈ fresh reached assets ↔ b ∈ assets ∧ b ∉ reached := by
  induction assets generalizing reached with
  | nil => simp [fresh]
  | cons a assets ih =>
      by_cases old : a ∈ reached
      · rw [fresh_cons_of_mem old, ih]
        grind
      · rw [fresh_cons_of_not_mem old, List.mem_cons, ih]
        grind

theorem nodup_append_fresh (distinct : reached.Nodup) : (reached ++ fresh reached assets).Nodup := by
  induction assets generalizing reached with
  | nil => simpa [fresh] using distinct
  | cons a assets ih =>
      by_cases old : a ∈ reached
      · rw [fresh_cons_of_mem old]
        exact ih distinct
      · rw [fresh_cons_of_not_mem old, List.append_cons]
        exact ih ((List.perm_append_singleton a reached).nodup_iff.mpr
          (List.nodup_cons.mpr ⟨old, distinct⟩))

theorem fresh_append (reached first second : List AssetId) :
    fresh reached (first ++ second) =
      fresh reached first ++ fresh (reached ++ fresh reached first) second := by
  induction first generalizing reached with
  | nil => simp [fresh]
  | cons a first ih =>
      by_cases old : a ∈ reached
      · rw [List.cons_append, fresh_cons_of_mem old, fresh_cons_of_mem old, ih]
      · rw [List.cons_append, fresh_cons_of_not_mem old, fresh_cons_of_not_mem old, ih]
        simp

end Fresh

/-- What is one edge away from the frontier and has not been reached yet. -/
def level (g : Graph) (reached frontier : List AssetId) : List AssetId :=
  fresh reached (frontier.flatMap g.successors)

theorem WellFormed.mem_level (wf : g.WellFormed) {reached frontier : List AssetId} {b : AssetId} :
    b ∈ g.level reached frontier ↔
      (∃ e ∈ g.edges, e.source ∈ frontier ∧ e.target = b) ∧ b ∉ reached := by
  simp only [level, mem_fresh, List.mem_flatMap, wf.mem_successors]
  grind

theorem WellFormed.target_mem_level (wf : g.WellFormed) {reached frontier : List AssetId}
    {e : Edge} (known : e ∈ g.edges) (at_frontier : e.source ∈ frontier) :
    e.target ∈ reached ++ g.level reached frontier := by
  by_cases old : e.target ∈ reached
  · exact List.mem_append_left _ old
  · exact List.mem_append_right _ (wf.mem_level.mpr ⟨⟨e, known, at_frontier, rfl⟩, old⟩)

/-- What the search has looked at: all that is one edge away from a reached asset has been reached,
but for those on the frontier. -/
structure Explored (g : Graph) (reached frontier : List AssetId) : Prop where
  frontier_subset : frontier ⊆ reached
  closed : ∀ e ∈ g.edges, e.source ∈ reached → e.source ∉ frontier → e.target ∈ reached

namespace Explored

variable {reached frontier : List AssetId}

/-- Nothing is reached from a reached asset but by way of the frontier. -/
theorem reaches (explored : g.Explored reached frontier) {hops : Nat} {a b : AssetId}
    (start : a ∈ reached) (reaches : g.Reaches hops a b) :
    b ∈ reached ∨ ∃ c ∈ frontier, g.Reaches hops c b := by
  induction hops generalizing a with
  | zero =>
      obtain rfl := reaches_zero_iff.mp reaches
      exact .inl start
  | succ hops ih =>
      by_cases at_frontier : a ∈ frontier
      · exact .inr ⟨a, at_frontier, reaches⟩
      · obtain rfl | ⟨e, known, rfl, later⟩ := reaches_succ_iff.mp reaches
        · exact .inl start
        · have reached_next := explored.closed e known start at_frontier
          obtain reached_b | ⟨c, on_frontier, rest⟩ := ih reached_next later
          · exact .inl reached_b
          · exact .inr ⟨c, on_frontier, rest.mono (Nat.le_succ hops)⟩

/-- With the new level in its place, the frontier has moved on. -/
theorem next (explored : g.Explored reached frontier) (wf : g.WellFormed) :
    g.Explored (reached ++ g.level reached frontier) (g.level reached frontier) := by
  refine ⟨List.subset_append_right _ _, ?_⟩
  intro e known source new
  have source : e.source ∈ reached := (List.mem_append.mp source).resolve_right new
  by_cases at_frontier : e.source ∈ frontier
  · exact wf.target_mem_level known at_frontier
  · exact List.mem_append_left _ (explored.closed e known source at_frontier)

/-- One hop from the frontier leads to the new level, or to what has been reached before. -/
theorem within_level_iff (explored : g.Explored reached frontier) (wf : g.WellFormed) {hops : Nat}
    {b : AssetId} :
    (b ∈ reached ++ g.level reached frontier ∨
        ∃ a ∈ g.level reached frontier, g.Reaches hops a b) ↔
      b ∈ reached ∨ ∃ a ∈ frontier, g.Reaches (hops + 1) a b := by
  constructor
  · rintro (listed | ⟨c, new, rest⟩)
    · rcases List.mem_append.mp listed with old | new
      · exact .inl old
      · obtain ⟨⟨e, known, source, rfl⟩, -⟩ := wf.mem_level.mp new
        exact .inr ⟨_, source, reaches_succ_iff.mpr (.inr ⟨e, known, rfl, .refl g hops _⟩)⟩
    · obtain ⟨⟨e, known, source, rfl⟩, -⟩ := wf.mem_level.mp new
      exact .inr ⟨_, source, reaches_succ_iff.mpr (.inr ⟨e, known, rfl, rest⟩)⟩
  · rintro (old | ⟨a, at_frontier, reaches⟩)
    · exact .inl (List.mem_append_left _ old)
    · obtain rfl | ⟨e, known, rfl, later⟩ := reaches_succ_iff.mp reaches
      · exact .inl (List.mem_append_left _ (explored.frontier_subset at_frontier))
      · exact (explored.next wf).reaches (wf.target_mem_level known at_frontier) later

end Explored

/-- Extend the assets reached so far by those that are at most `hops` edges from the frontier. -/
def spread (g : Graph) : (hops : Nat) → (reached frontier : List AssetId) → List AssetId
  | 0, reached, _ => reached
  | hops + 1, reached, frontier =>
    g.spread hops (reached ++ g.level reached frontier) (g.level reached frontier)

/-- A search by levels goes on to all that is within reach of its frontier. -/
theorem mem_spread_iff (wf : g.WellFormed) {hops : Nat} {reached frontier : List AssetId}
    (explored : g.Explored reached frontier) {b : AssetId} :
    b ∈ g.spread hops reached frontier ↔ b ∈ reached ∨ ∃ a ∈ frontier, g.Reaches hops a b := by
  induction hops generalizing reached frontier with
  | zero =>
      refine ⟨.inl, ?_⟩
      rintro (old | ⟨a, at_frontier, here⟩)
      · exact old
      · obtain rfl := reaches_zero_iff.mp here
        exact explored.frontier_subset at_frontier
  | succ hops ih =>
      rw [← explored.within_level_iff wf, spread]
      exact ih (explored.next wf)

theorem nodup_spread {hops : Nat} {reached frontier : List AssetId} (distinct : reached.Nodup) :
    (g.spread hops reached frontier).Nodup := by
  induction hops generalizing reached frontier with
  | zero => exact distinct
  | succ hops ih => exact ih (nodup_append_fresh distinct)

section Queue

variable {limit hops : Nat}

/-- To meet some assets is to put those not met before at the end of the queue. -/
theorem foldl_meet (hops : Nat) (reached assets : List AssetId) (queue : List (AssetId × Nat)) :
    assets.foldl (Search.meet hops) ⟨reached, queue⟩ =
      ⟨reached ++ fresh reached assets, queue ++ (fresh reached assets).map (·, hops)⟩ := by
  induction assets generalizing reached queue with
  | nil => simp [fresh]
  | cons a assets ih =>
      rw [List.foldl_cons, Search.meet]
      by_cases old : a ∈ reached
      · rw [if_pos (List.contains_iff_mem.mpr old), ih, fresh_cons_of_mem old]
      · rw [if_neg (fun met => old (List.contains_iff_mem.mp met)), ih, fresh_cons_of_not_mem old]
        simp

/-- Assets that may not be left are only taken out of the queue. -/
theorem search_of_limit (g : Graph) (limit : Nat) (reached frontier : List AssetId) :
    g.search limit ⟨reached, frontier.map (·, limit)⟩ = reached := by
  induction frontier with
  | nil => rw [List.map_nil, search]
  | cons a frontier ih => rw [List.map_cons, search, if_pos rfl, ih]

/-- The queue holds what is left of one level, and behind it what has been met of the next. When the
one has been worked off, the other is complete. -/
theorem search_levels (unlimited : hops ≠ limit) (reached frontier next : List AssetId) :
    g.search limit ⟨reached, frontier.map (·, hops) ++ next.map (·, hops + 1)⟩ =
      g.search limit ⟨reached ++ g.level reached frontier,
        (next ++ g.level reached frontier).map (·, hops + 1)⟩ := by
  induction frontier generalizing reached next with
  | nil => simp [level, fresh]
  | cons a frontier ih =>
      have split : g.level reached (a :: frontier) = fresh reached (g.successors a) ++
          g.level (reached ++ fresh reached (g.successors a)) frontier := by
        rw [level, List.flatMap_cons, fresh_append, ← level]
      rw [List.map_cons, List.cons_append, search, if_neg unlimited, foldl_meet, List.append_assoc,
        ← List.map_append, ih, split]
      simp only [List.append_assoc]

theorem search_eq_spread (within : hops ≤ limit) (reached frontier : List AssetId) :
    g.search limit ⟨reached, frontier.map (·, hops)⟩ = g.spread (limit - hops) reached frontier := by
  generalize left : limit - hops = n
  induction n generalizing hops reached frontier with
  | zero =>
      obtain rfl : hops = limit := by omega
      exact search_of_limit ..
  | succ n ih =>
      have onwards := search_levels (g := g) (show hops ≠ limit by omega) reached frontier []
      rw [List.map_nil, List.append_nil, List.nil_append] at onwards
      rw [onwards, spread]
      exact ih (by omega) _ _ (by omega)

theorem reachableWithin_of_lt {start : AssetId} (present : start < g.assets.size) (hops : Nat) :
    g.reachableWithin start hops = g.spread hops [start] [start] := by
  rw [reachableWithin, if_pos present]
  exact search_eq_spread (Nat.zero_le hops) [start] [start]

end Queue

/-- The search finds exactly what is within reach of a start that is there. -/
theorem mem_reachableWithin_iff (wf : g.WellFormed) {start : AssetId} {hops : Nat} {b : AssetId} :
    b ∈ g.reachableWithin start hops ↔ start < g.assets.size ∧ g.Reaches hops start b := by
  by_cases present : start < g.assets.size
  · have explored : g.Explored [start] [start] := by
      refine ⟨List.Subset.refl _, ?_⟩
      intro e _ source old
      exact absurd source old
    rw [reachableWithin_of_lt present, mem_spread_iff wf explored]
    simp only [List.mem_singleton, exists_eq_left, present, true_and]
    constructor
    · rintro (rfl | reaches)
      · exact .refl g hops b
      · exact reaches
    · exact .inr
  · simp [reachableWithin, present]

theorem nodup_reachableWithin (g : Graph) (start : AssetId) (hops : Nat) :
    (g.reachableWithin start hops).Nodup := by
  by_cases present : start < g.assets.size
  · rw [reachableWithin_of_lt present]
    exact nodup_spread (by simp)
  · rw [reachableWithin, if_neg present]
    exact List.nodup_nil

/-- On a graph built by additions, the search comes to an end with exactly the assets to which at
most so many edges lead from the start, each of them once and the start among them. It finds nothing
if and only if there is no such start. -/
theorem reachableWithin_exact {g : Graph} (built : g.Built) (start : AssetId) (hops : Nat) :
    (∀ a, a ∈ g.reachableWithin start hops ↔ start < g.assets.size ∧ g.Reaches hops start a) ∧
    (g.reachableWithin start hops).Nodup ∧
    (start ∈ g.reachableWithin start hops ↔ start < g.assets.size) ∧
    (g.reachableWithin start hops = [] ↔ g.assets.size ≤ start) := by
  have exact : ∀ a, a ∈ g.reachableWithin start hops ↔
      start < g.assets.size ∧ g.Reaches hops start a :=
    fun _ => mem_reachableWithin_iff built.wellFormed
  have itself : start ∈ g.reachableWithin start hops ↔ start < g.assets.size := by
    rw [exact, and_iff_left (.refl g hops start)]
  refine ⟨exact, nodup_reachableWithin g start hops, itself, ?_⟩
  constructor
  · intro none
    rw [none] at itself
    exact Nat.not_lt.mp fun present => nomatch itself.mpr present
  · intro absent
    exact if_neg (Nat.not_lt.mpr absent)

/-- A way from 0 to 5 with two detours: 4 can be met by way of 1, but also by way of 2 and 3. -/
def detours : Graph where
  assets := #[⟨"a", .repeated 0⟩, ⟨"b", .repeated 1⟩, ⟨"c", .repeated 2⟩, ⟨"d", .repeated 3⟩,
    ⟨"e", .repeated 4⟩, ⟨"f", .repeated 5⟩]
  edges := #[⟨0, 1, .order (.ofNat 1) .one .one⟩, ⟨0, 2, .order (.ofNat 2) .one .one⟩,
    ⟨2, 3, .order (.ofNat 3) .one .one⟩, ⟨3, 4, .order (.ofNat 4) .one .one⟩,
    ⟨1, 4, .order (.ofNat 5) .one .one⟩, ⟨4, 5, .order (.ofNat 6) .one .one⟩]
  leaving := #[[0, 1], [4], [2], [3], [5], []]

theorem detours_built : detours.Built :=
  .of_build (show build detours.assets.toList detours.edges.toList = _ by decide +kernel)

/-- Three hops lead to the last asset, which a search that went on from the newest asset first would
miss, as it would have met the last but one by a detour. -/
theorem reachableWithin_exact_detours :
    detours.Built ∧ detours.reachableWithin 0 3 = [0, 1, 2, 4, 3, 5] ∧ detours.Reaches 3 0 5 ∧
      ¬ detours.Reaches 2 0 5 ∧ detours.reachableWithin 6 3 = [] := by
  have listed : detours.reachableWithin 0 3 = [0, 1, 2, 4, 3, 5] := by decide +kernel
  obtain ⟨three, -⟩ := reachableWithin_exact detours_built 0 3
  obtain ⟨two, -⟩ := reachableWithin_exact detours_built 0 2
  obtain ⟨-, -, -, unknown⟩ := reachableWithin_exact detours_built 6 3
  refine ⟨detours_built, listed, ((three 5).mp ?_).2, ?_, unknown.mpr (by decide)⟩
  · rw [listed]
    decide
  · intro reaches
    exact absurd ((two 5).mpr ⟨by decide, reaches⟩) (by decide +kernel)

end Arbitrage.Graph
