import Arbitrage.Cycle.Search
import Arbitrage.Proofs.Cycle.Path
import Mathlib.Control.Monad.Basic

/-!
# The search finds every simple cycle once

The search for cycles keeps three things while it goes down a branch: the room left, the assets
visited and the markets used. `Closing` says, without any search, which paths go on from such a
point and back to the base; `mem_closings_iff` says that the search emits exactly those. From the
start it emits exactly the paths that pass the check of a cycle and meet no asset twice, in strictly
increasing lexicographic order, hence each of them once.
-/

namespace Arbitrage.Graph

/-- The assets that edges meet between their two ends, in the order in which they are met. -/
def inner (edges : List Edge) : List AssetId := edges.dropLast.map Edge.target

/-- A path that meets the base only at its ends, and no other asset twice; it says nothing about
markets. -/
def IsSimple (g : Graph) (base : AssetId) (path : Path) : Prop :=
  ∃ edges, g.pathEdges path = .ok edges ∧ (base :: inner edges).Nodup

/-- Some edges close a branch that stands at `asset`: they lead back to `base`, visit only new
assets on the way, and use only new markets. A branch without any edge is not closed by one. -/
structure Closing (base asset : AssetId) (visited : List AssetId) (used : List EdgeKey)
    (edges : List Edge) : Prop where
  leads : Leads asset edges base
  nonempty : edges ≠ []
  fresh : ∀ a ∈ inner edges, a ∉ visited
  simple : (inner edges).Nodup
  keys : (edges.map Edge.key).Nodup
  unused : ∀ e ∈ edges, e.key ∉ used
  long : used = [] → minPathLength ≤ edges.length

@[simp] theorem inner_singleton (e : Edge) : inner [e] = [] := rfl

@[simp] theorem inner_cons_cons (e f : Edge) (edges : List Edge) :
    inner (e :: f :: edges) = e.target :: inner (f :: edges) := rfl

theorem closing_singleton {base asset : AssetId} {visited : List AssetId} {used : List EdgeKey}
    {e : Edge} :
    Closing base asset visited used [e] ↔
      e.source = asset ∧ e.key ∉ used ∧ e.target = base ∧ used ≠ [] := by
  constructor
  · intro h
    refine ⟨h.leads.1, h.unused e List.mem_cons_self, h.leads.2, ?_⟩
    intro none
    have := h.long none
    simp [minPathLength] at this
  · rintro ⟨source, unused, target, long⟩
    refine ⟨⟨source, target⟩, by simp, by simp, by simp, by simp, by simpa using unused, ?_⟩
    exact fun none => absurd none long

/-- Any other edge of a branch goes on to a new asset, where the rest closes the longer branch. -/
theorem closing_cons_cons {base asset : AssetId} {visited : List AssetId} {used : List EdgeKey}
    {e f : Edge} {edges : List Edge} (started : base ∈ visited) :
    Closing base asset visited used (e :: f :: edges) ↔
      e.source = asset ∧ e.key ∉ used ∧ e.target ≠ base ∧ e.target ∉ visited ∧
        Closing base e.target (e.target :: visited) (e.key :: used) (f :: edges) := by
  constructor
  · intro h
    have new : e.target ∉ visited := h.fresh e.target (by simp)
    have simple := List.nodup_cons.mp (inner_cons_cons e f edges ▸ h.simple)
    have keys := List.nodup_cons.mp h.keys
    refine ⟨h.leads.1, h.unused e (by simp), fun back => new (back ▸ started), new, ?_⟩
    refine ⟨h.leads.2, by simp, ?_, simple.2, keys.2, ?_, by simp⟩
    · intro a ha
      have := h.fresh a (by simp [ha])
      rintro (_ | _)
      · exact simple.1 ha
      · contradiction
    · intro d hd
      have := h.unused d (List.mem_cons_of_mem _ hd)
      have : d.key ≠ e.key := fun same => keys.1 (List.mem_map.mpr ⟨d, hd, same⟩)
      simp_all
  · rintro ⟨source, unused, -, new, rest⟩
    refine ⟨⟨source, rest.leads⟩, by simp, ?_, ?_, ?_, ?_, by simp [minPathLength]⟩
    · intro a ha
      rcases List.mem_cons.mp (inner_cons_cons e f edges ▸ ha) with rfl | ha
      · exact new
      · exact fun old => rest.fresh a ha (List.mem_cons_of_mem _ old)
    · rw [inner_cons_cons]
      exact List.nodup_cons.mpr ⟨fun again => rest.fresh _ again List.mem_cons_self, rest.simple⟩
    · refine List.nodup_cons.mpr ⟨?_, rest.keys⟩
      intro again
      obtain ⟨d, hd, same⟩ := List.mem_map.mp again
      exact rest.unused d hd (by simp [same])
    · intro d hd
      rcases List.mem_cons.mp hd with rfl | hd
      · exact unused
      · exact fun old => rest.unused d hd (List.mem_cons_of_mem _ old)

section Search

variable {g : Graph} {base : AssetId}

/-- What the search emits for one edge that leaves the asset at which it stands: a cycle that it
closes, or the closings of the longer branch. -/
def extensions (g : Graph) (base : AssetId) (room : Nat) (visited : List AssetId)
    (used : List EdgeKey) (id : EdgeId) : List Path :=
  match g.edges[id]? with
  | none => []
  | some edge =>
    if used.contains edge.key then []
    else if edge.target = base then if used.isEmpty then [] else [[id]]
    else if room = 0 ∨ visited.contains edge.target then []
    else (g.closings base room edge.target (edge.target :: visited) (edge.key :: used)).map (id :: ·)

theorem closings_succ {room : Nat} {asset : AssetId} {visited : List AssetId}
    {used : List EdgeKey} :
    g.closings base (room + 1) asset visited used =
      (g.outboundOrNone asset).flatMap (g.extensions base room visited used) := rfl

theorem mem_extensions {room : Nat} {visited : List AssetId} {used : List EdgeKey} {id : EdgeId}
    {e : Edge} (found : g.edges[id]? = some e) {path : Path} :
    path ∈ g.extensions base room visited used id ↔
      e.key ∉ used ∧ ∃ rest, path = id :: rest ∧
        ((e.target = base ∧ used ≠ [] ∧ rest = []) ∨
          (e.target ≠ base ∧ e.target ∉ visited ∧
            rest ∈ g.closings base room e.target (e.target :: visited) (e.key :: used))) := by
  simp only [extensions, found]
  by_cases old_key : e.key ∈ used
  · simp [old_key]
  by_cases back : e.target = base
  · by_cases first : used = [] <;> simp_all
  cases room with
  | zero => simp [old_key, back, closings]
  | succ room =>
      by_cases old : e.target ∈ visited
      · simp [old_key, back, old]
      · simp only [old_key, back, old, List.contains_eq_mem, decide_false, if_false]
        grind

theorem exists_cons_of_mem_extensions {room : Nat} {visited : List AssetId} {used : List EdgeKey}
    {id : EdgeId} {path : Path} (emitted : path ∈ g.extensions base room visited used id) :
    ∃ rest, path = id :: rest := by
  cases found : g.edges[id]? with
  | none => simp [extensions, found] at emitted
  | some e =>
      obtain ⟨-, rest, same, -⟩ := (mem_extensions found).mp emitted
      exact ⟨rest, same⟩

theorem mem_closings_succ (wf : g.WellFormed) {room : Nat} {asset : AssetId}
    {visited : List AssetId} {used : List EdgeKey} {path : Path} :
    path ∈ g.closings base (room + 1) asset visited used ↔
      ∃ id rest e, path = id :: rest ∧ g.edges[id]? = some e ∧ e.source = asset ∧ e.key ∉ used ∧
        ((e.target = base ∧ used ≠ [] ∧ rest = []) ∨
          (e.target ≠ base ∧ e.target ∉ visited ∧
            rest ∈ g.closings base room e.target (e.target :: visited) (e.key :: used))) := by
  rw [closings_succ, List.mem_flatMap]
  constructor
  · rintro ⟨id, hid, emitted⟩
    obtain ⟨e, found, source⟩ := wf.mem_outboundOrNone.mp hid
    obtain ⟨unused, rest, rfl, cases⟩ := (mem_extensions found).mp emitted
    exact ⟨id, rest, e, rfl, found, source, unused, cases⟩
  · rintro ⟨id, rest, e, rfl, found, source, unused, cases⟩
    exact ⟨id, wf.mem_outboundOrNone.mpr ⟨e, found, source⟩,
      (mem_extensions found).mpr ⟨unused, rest, rfl, cases⟩⟩

/-- The search emits exactly the paths whose edges close the branch within the room left. -/
theorem mem_closings_iff (wf : g.WellFormed) {room : Nat} {asset : AssetId}
    {visited : List AssetId} {used : List EdgeKey} {path : Path} (started : base ∈ visited) :
    path ∈ g.closings base room asset visited used ↔
      path.length ≤ room ∧ ∃ edges, g.pathEdges path = .ok edges ∧
        Closing base asset visited used edges := by
  induction room generalizing asset visited used path with
  | zero =>
      simp only [closings, List.not_mem_nil, false_iff, not_and, not_exists]
      intro short edges known closing
      have := length_of_pathEdges known
      exact closing.nonempty (List.eq_nil_of_length_eq_zero (by omega))
  | succ room ih =>
      rw [mem_closings_succ wf]
      constructor
      · rintro ⟨id, rest, e, rfl, found, source, unused, ⟨back, long, rfl⟩ | ⟨away, new, within⟩⟩
        · exact ⟨by simp, [e], pathEdges_cons_eq_ok_iff.mpr ⟨e, [], found, rfl, rfl⟩,
            closing_singleton.mpr ⟨source, unused, back, long⟩⟩
        · obtain ⟨short, edges, known, closing⟩ := (ih (List.mem_cons_of_mem _ started)).mp within
          refine ⟨by simpa using short, e :: edges,
            pathEdges_cons_eq_ok_iff.mpr ⟨e, edges, found, known, rfl⟩, ?_⟩
          obtain ⟨f, edges, rfl⟩ := List.exists_cons_of_ne_nil closing.nonempty
          exact (closing_cons_cons started).mpr ⟨source, unused, away, new, closing⟩
      · rintro ⟨short, edges, known, closing⟩
        cases path with
        | nil =>
            cases known
            exact absurd rfl closing.nonempty
        | cons id rest =>
            obtain ⟨e, edges, found, rest_known, rfl⟩ := pathEdges_cons_eq_ok_iff.mp known
            cases edges with
            | nil =>
                obtain ⟨source, unused, back, long⟩ := closing_singleton.mp closing
                have : rest = [] := List.eq_nil_of_length_eq_zero
                  (length_of_pathEdges rest_known).symm
                exact ⟨id, rest, e, rfl, found, source, unused, .inl ⟨back, long, this⟩⟩
            | cons f edges =>
                obtain ⟨source, unused, away, new, closing⟩ :=
                  (closing_cons_cons started).mp closing
                have within := (ih (List.mem_cons_of_mem _ started)).mpr
                  ⟨by simpa using short, f :: edges, rest_known, closing⟩
                exact ⟨id, rest, e, rfl, found, source, unused, .inr ⟨away, new, within⟩⟩

/-- The search emits in strictly increasing lexicographic order, since the edges that leave an asset
are taken by number. -/
theorem closings_pairwise (wf : g.WellFormed) (room : Nat) (asset : AssetId)
    (visited : List AssetId) (used : List EdgeKey) :
    (g.closings base room asset visited used).Pairwise (· < ·) := by
  induction room generalizing asset visited used with
  | zero => exact .nil
  | succ room ih =>
      rw [closings_succ, List.pairwise_flatMap]
      constructor
      · intro id _
        rw [extensions]
        split
        · exact .nil
        · split
          · exact .nil
          · split
            · split <;> simp
            · split
              · exact .nil
              · rw [List.pairwise_map]
                exact (ih ..).imp fun h => List.cons_lt_cons_iff.mpr (.inr ⟨rfl, h⟩)
      · -- Paths from different edges differ in their first number.
        refine (wf.outboundOrNone_pairwise asset).imp fun {i j} before p hp q hq => ?_
        obtain ⟨p, rfl⟩ := exists_cons_of_mem_extensions hp
        obtain ⟨q, rfl⟩ := exists_cons_of_mem_extensions hq
        exact List.cons_lt_cons_iff.mpr (.inl before)

/-- From the start, a closing is a simple closed trail of at least two edges. -/
theorem closing_start_iff {edges : List Edge} :
    Closing base base [base] [] edges ↔
      minPathLength ≤ edges.length ∧ Leads base edges base ∧ (edges.map Edge.key).Nodup ∧
        (base :: inner edges).Nodup := by
  constructor
  · intro h
    refine ⟨h.long rfl, h.leads, h.keys, List.nodup_cons.mpr ⟨?_, h.simple⟩⟩
    intro again
    exact h.fresh base again List.mem_cons_self
  · rintro ⟨long, leads, keys, simple⟩
    have simple := List.nodup_cons.mp simple
    refine ⟨leads, ?_, ?_, simple.2, keys, by simp, fun _ => long⟩
    · rintro rfl
      exact absurd long (by decide)
    · rintro a ha (_ | _)
      · exact simple.1 ha
      · contradiction

theorem mem_cycles_iff (wf : g.WellFormed) {maxDepth : Nat} {path : Path} :
    path ∈ g.cycles base maxDepth ↔
      g.checkCycle base maxDepth path = .ok () ∧ g.IsSimple base path := by
  rw [checkCycle_eq_ok_iff]
  rw [cycles]
  split
  · rename_i enabled
    rw [mem_closings_iff wf List.mem_cons_self]
    constructor
    · rintro ⟨short, edges, known, closing⟩
      obtain ⟨long, leads, keys, simple⟩ := closing_start_iff.mp closing
      exact ⟨⟨length_of_pathEdges known ▸ long, short, edges, known, leads, keys⟩,
        edges, known, simple⟩
    · rintro ⟨⟨long, short, edges, known, leads, keys⟩, _, known', simple⟩
      obtain rfl : edges = _ := Except.ok.inj (known.symm.trans known')
      exact ⟨short, edges, known, closing_start_iff.mpr
        ⟨(length_of_pathEdges known).symm ▸ long, leads, keys, simple⟩⟩
  · -- A cycle starts with an edge that leaves the base, and has at least two edges.
    rename_i disabled
    simp only [List.not_mem_nil, false_iff]
    rintro ⟨⟨long, short, edges, known, leads, -⟩, -⟩
    have length := length_of_pathEdges known
    cases edges with
    | nil => simp [minPathLength] at long length; omega
    | cons e edges =>
        have member := mem_edges_of_pathEdges known e List.mem_cons_self
        have source := wf.source_lt e member
        rw [leads.1] at source
        exact disabled ⟨source, Nat.le_trans long short⟩

theorem cycles_pairwise (wf : g.WellFormed) (base : AssetId) (maxDepth : Nat) :
    (g.cycles base maxDepth).Pairwise (· < ·) := by
  rw [cycles]
  split
  · exact closings_pairwise wf ..
  · exact .nil

end Search

/-- The search for cycles is sound, complete and free of repetitions: on a graph built by additions
it lists exactly the simple cycles at the base, each once and in lexicographic order, and nothing
for an unknown base or for fewer than two edges. The list is available whenever the search can set
its room aside. -/
theorem cycles_enumerate {g : Graph} (built : g.Built) (base : AssetId) (maxDepth : Nat) :
    (∀ path, path ∈ g.cycles base maxDepth ↔
      g.checkCycle base maxDepth path = .ok () ∧ g.IsSimple base path) ∧
    (∀ path ∈ g.cycles base maxDepth, (g.cycles base maxDepth).count path = 1) ∧
    (g.cycles base maxDepth).Pairwise (· < ·) ∧
    (g.assets.size ≤ base ∨ maxDepth < minPathLength → g.cycles base maxDepth = []) ∧
    (maxDepth ≤ mostRoom → g.cycles? base maxDepth = some (g.cycles base maxDepth)) := by
  have sorted : (g.cycles base maxDepth).Pairwise (· < ·) := by
    rw [cycles]
    split
    · exact closings_pairwise built.wellFormed ..
    · exact .nil
  refine ⟨fun path => mem_cycles_iff built.wellFormed, ?_, sorted, ?_, cycles?_eq_some⟩
  · intro path found
    have distinct : (g.cycles base maxDepth).Nodup :=
      sorted.imp fun {p q} (less : p < q) (same : p = q) => List.lt_irrefl q (same ▸ less)
    rw [distinct.count, if_pos found]
  · intro h
    exact if_neg fun enabled => h.elim (Nat.not_le_of_lt enabled.1) (Nat.not_lt_of_le enabled.2)

def parallelOrders : Graph where
  assets := #[⟨"gem", .repeated 0x11⟩, ⟨"sai", .repeated 0x33⟩]
  edges := #[⟨0, 1, .order (.ofNat 1) (.ofUnits 2) (.ofUnits 1)⟩,
    ⟨1, 0, .order (.ofNat 2) (.ofUnits 1) (.ofUnits 1)⟩,
    ⟨1, 0, .order (.ofNat 3) (.ofUnits 1) (.ofUnits 2)⟩]
  leaving := #[[0], [1, 2]]

theorem parallelOrders_built : parallelOrders.Built :=
  .of_build (show build parallelOrders.assets.toList parallelOrders.edges.toList = _ by decide +kernel)

/-- Parallel orders give cycles of their own: there is one for each way back, and they come in the
order of the orders. -/
theorem cycles_enumerate_parallelOrders :
    parallelOrders.Built ∧ parallelOrders.cycles 0 2 = [[0, 1], [0, 2]] ∧
      parallelOrders.checkCycle 0 2 [0, 2] = .ok () ∧ parallelOrders.IsSimple 0 [0, 2] ∧
      (parallelOrders.cycles 0 2).count [0, 2] = 1 ∧ parallelOrders.cycles 2 2 = [] := by
  have listed : parallelOrders.cycles 0 2 = [[0, 1], [0, 2]] := by decide
  have found : [0, 2] ∈ parallelOrders.cycles 0 2 := by
    rw [listed]
    decide
  obtain ⟨exact, once, -⟩ := cycles_enumerate parallelOrders_built 0 2
  obtain ⟨-, -, -, unknown, -⟩ := cycles_enumerate parallelOrders_built 2 2
  exact ⟨parallelOrders_built, listed, ((exact _).mp found).1, ((exact _).mp found).2,
    once _ found, unknown (.inl (by decide))⟩

end Arbitrage.Graph
