import Arbitrage.Proofs.Cycle.Search
import Arbitrage.Proofs.Market.Reach
import Mathlib.Data.List.NodupEquivFin
import Mathlib.Data.List.Sort

/-!
# Cycles of a graph that has lost some of its edges

When edges are taken out of a graph, those that are left close ranks: they keep their order but not
their numbers. `Thins f g h` says that `h` is left of `g` and that `f` finds the old number of each
edge; `f` is strictly increasing, so a path of `h` and its image in `g` go through the same edges
and compare alike with other paths.

A cycle of at most `maxDepth` edges never leaves what is within that reach of its base
(`reaches_of_mem_cycles`). So if nothing within reach was taken out, the search finds the same
cycles in both graphs, and in the same order (`map_keysAlong_cycles`).
-/

namespace Arbitrage.Graph

variable {g h : Graph} {f : ℕ ↪o ℕ} {base : AssetId} {maxDepth : Nat} {path : Path}
  {edges : List Edge}

/-- The markets along a path, which name it whatever numbers its edges have. -/
def keysAlong (g : Graph) (path : Path) : List (Option EdgeKey) :=
  path.map fun id => (g.edges[id]?).map Edge.key

/-- What is left of a graph, with the old numbers of its edges: `f` tells for every edge of `h`
which edge of `g` it was. -/
structure Thins (f : ℕ ↪o ℕ) (g h : Graph) : Prop where
  assets_eq : h.assets = g.assets
  edge_eq : ∀ id, h.edges[id]? = g.edges[f id]?

theorem exists_thins (assets : h.assets = g.assets)
    (sub : h.edges.toList.Sublist g.edges.toList) : ∃ f, Thins f g h := by
  obtain ⟨f, same⟩ := List.sublist_iff_exists_orderEmbedding_getElem?_eq.mp sub
  exact ⟨f, assets, by simpa using same⟩

theorem leads_append {a b : AssetId} {before after : List Edge} :
    Leads a (before ++ after) b ↔ ∃ c, Leads a before c ∧ Leads c after b := by
  induction before generalizing a with
  | nil => simp
  | cons e before ih => simp [ih, and_assoc]

/-- Both ends of an edge of a cycle are within reach of the base. -/
theorem reaches_of_mem_cycles (wf : g.WellFormed) (found : path ∈ g.cycles base maxDepth)
    (known : g.pathEdges path = .ok edges) {e : Edge} (listed : e ∈ edges) :
    g.Reaches maxDepth base e.source ∧ g.Reaches maxDepth base e.target := by
  obtain ⟨⟨-, short, edges', known', leads, -⟩, -⟩ :=
    (mem_cycles_iff wf).mp found |>.imp_left checkCycle_eq_ok_iff.mp
  obtain rfl := Except.ok.inj (known.symm.trans known')
  rw [← length_of_pathEdges known] at short
  have among := mem_edges_of_pathEdges known
  obtain ⟨before, after, rfl⟩ := List.append_of_mem listed
  obtain ⟨_, there, rfl, -⟩ := leads_append.mp leads
  rw [List.length_append, List.length_cons] at short
  constructor
  · exact ⟨before, there, by omega, fun d hd => among d (List.mem_append_left _ hd)⟩
  · refine ⟨before ++ [e], leads_append.mpr ⟨_, there, rfl, rfl⟩, ?_, ?_⟩
    · rw [List.length_append, List.length_singleton]
      omega
    · intro d hd
      rcases List.mem_append.mp hd with hd | hd
      · exact among d (List.mem_append_left _ hd)
      · obtain rfl := List.mem_singleton.mp hd
        exact among d listed

namespace Thins

theorem pathEdges_iff (thins : Thins f g h) :
    g.pathEdges (path.map f) = .ok edges ↔ h.pathEdges path = .ok edges := by
  rw [pathEdges_eq_ok_iff, pathEdges_eq_ok_iff, List.map_map]
  simp only [Function.comp_def, thins.edge_eq]

theorem keysAlong_eq (thins : Thins f g h) (path : Path) :
    g.keysAlong (path.map f) = h.keysAlong path := by
  rw [keysAlong, keysAlong, List.map_map]
  simp only [Function.comp_def, thins.edge_eq]

theorem mem_cycles_iff (thins : Thins f g h) (wf : g.WellFormed) (wf' : h.WellFormed) :
    path.map f ∈ g.cycles base maxDepth ↔ path ∈ h.cycles base maxDepth := by
  rw [Graph.mem_cycles_iff wf, Graph.mem_cycles_iff wf']
  simp only [checkCycle_eq_ok_iff, IsSimple, List.length_map, thins.pathEdges_iff]

theorem exists_number (thins : Thins f g h) (wf : g.WellFormed) {id : EdgeId} {e : Edge}
    (found : g.edges[id]? = some e) (left : e ∈ h.edges) : ∃ i, f i = id := by
  obtain ⟨i, at_i⟩ := Array.getElem?_of_mem left
  have same : g.edges.toList[f i]? = g.edges.toList[id]? := by
    rw [Array.getElem?_toList, Array.getElem?_toList, ← thins.edge_eq, at_i, found]
  have bound : f i < g.edges.toList.length :=
    (Array.getElem?_eq_some_iff.mp ((thins.edge_eq i).symm.trans at_i)).1
  exact ⟨i, (List.getElem?_inj bound (wf.keys.of_map _)).mp same⟩

theorem exists_path (thins : Thins f g h) (wf : g.WellFormed) (known : g.pathEdges path = .ok edges)
    (left : ∀ e ∈ edges, e ∈ h.edges) : ∃ old : Path, old.map f = path := by
  induction path generalizing edges with
  | nil => exact ⟨[], rfl⟩
  | cons id path ih =>
      obtain ⟨e, edges, found, rest, rfl⟩ := pathEdges_cons_eq_ok_iff.mp known
      obtain ⟨first, others⟩ := List.forall_mem_cons.mp left
      obtain ⟨i, rfl⟩ := thins.exists_number wf found first
      obtain ⟨old, rfl⟩ := ih rest others
      exact ⟨i :: old, rfl⟩

/-- The same cycles are found, under other numbers, if none of their edges was taken out. -/
theorem map_cycles (thins : Thins f g h) (wf : g.WellFormed) (wf' : h.WellFormed)
    (left : ∀ path ∈ g.cycles base maxDepth, ∀ edges, g.pathEdges path = .ok edges →
      ∀ e ∈ edges, e ∈ h.edges) :
    (h.cycles base maxDepth).map (List.map f) = g.cycles base maxDepth := by
  have sorted : ((h.cycles base maxDepth).map (List.map f)).Pairwise (· < ·) := by
    rw [List.pairwise_map]
    refine (cycles_pairwise wf' base maxDepth).imp fun less => ?_
    exact List.map_lt (fun _ _ => f.lt_iff_lt.mpr) less
  refine sorted.eq_of_mem_iff (cycles_pairwise wf base maxDepth) ?_
  intro path
  rw [List.mem_map]
  constructor
  · rintro ⟨old, found, rfl⟩
    exact (thins.mem_cycles_iff wf wf').mpr found
  · intro found
    obtain ⟨edges, known, -⟩ := ((Graph.mem_cycles_iff wf).mp found).2
    obtain ⟨old, rfl⟩ := thins.exists_path wf known (left _ found _ known)
    exact ⟨old, (thins.mem_cycles_iff wf wf').mp found, rfl⟩

end Thins

/-- Edges that are out of reach of the base are of no use to its cycles. -/
theorem map_keysAlong_cycles (wf : g.WellFormed) (wf' : h.WellFormed) (assets : h.assets = g.assets)
    (sub : h.edges.toList.Sublist g.edges.toList)
    (left : ∀ e ∈ g.edges, g.Reaches maxDepth base e.source → g.Reaches maxDepth base e.target →
      e ∈ h.edges) :
    (h.cycles base maxDepth).map h.keysAlong = (g.cycles base maxDepth).map g.keysAlong := by
  obtain ⟨f, thins⟩ := exists_thins assets sub
  have same : (h.cycles base maxDepth).map (List.map f) = g.cycles base maxDepth := by
    refine thins.map_cycles wf wf' ?_
    intro path found edges known e listed
    obtain ⟨source, target⟩ := reaches_of_mem_cycles wf found known listed
    exact left e (mem_edges_of_pathEdges known e listed) source target
  rw [← same, List.map_map]
  exact List.map_congr_left fun path _ => (thins.keysAlong_eq path).symm

end Arbitrage.Graph
