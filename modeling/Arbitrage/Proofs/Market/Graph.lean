import Arbitrage.Market.Graph

/-!
# Graphs built by additions

Every graph in use comes from the empty one by adding assets and edges. `Built` says so, and
`WellFormed` collects what the additions guarantee: no address and no key is entered twice, an edge
joins two different assets of the graph, and the list of edges that leave an asset is exactly the
increasing list of their numbers.

Everything said about paths, cycles and plans below needs a graph to be well formed, and gets it
from `Built.wellFormed`.
-/

namespace Arbitrage.Graph

/-- The graphs that additions lead to. One that fails changes nothing. -/
inductive Built : Graph → Prop
  | empty : Built .empty
  | addAsset {g : Graph} (asset : Asset) (built : Built g) : Built (g.addAsset asset).2
  | addEdge {g g' : Graph} {edge : Edge} {id : EdgeId} (built : Built g)
      (added : g.addEdge edge = .ok (id, g')) : Built g'

/-- The numbers of the edges that leave an asset, in increasing order. -/
def idsFrom (edges : Array Edge) (id : AssetId) : List EdgeId :=
  (List.range edges.size).filter fun i => (edges[i]?).any (·.source == id)

/-- What additions keep true of a graph: each address once, each edge between two of its assets,
each key once, and every edge listed where it leaves. -/
structure WellFormed (g : Graph) : Prop where
  addresses : (g.assets.toList.map Asset.address).Nodup
  keys : (g.edges.toList.map Edge.key).Nodup
  source_lt : ∀ e ∈ g.edges, e.source < g.assets.size
  target_lt : ∀ e ∈ g.edges, e.target < g.assets.size
  source_ne_target : ∀ e ∈ g.edges, e.source ≠ e.target
  leaving_size : g.leaving.size = g.assets.size
  leaving_eq : ∀ id, g.outboundOrNone id = idsFrom g.edges id

theorem mem_idsFrom {edges : Array Edge} {id : AssetId} {i : EdgeId} :
    i ∈ idsFrom edges id ↔ ∃ e, edges[i]? = some e ∧ e.source = id := by
  simp only [idsFrom, List.mem_filter, List.mem_range, Option.any_eq_true, beq_iff_eq]
  constructor
  · intro h
    exact h.2
  · rintro ⟨e, found, source⟩
    exact ⟨(Array.getElem?_eq_some_iff.mp found).1, e, found, source⟩

theorem idsFrom_pairwise (edges : Array Edge) (id : AssetId) :
    (idsFrom edges id).Pairwise (· < ·) := List.pairwise_lt_range.filter _

/-- A new edge comes last among those that leave its source. -/
theorem idsFrom_push (edges : Array Edge) (edge : Edge) (id : AssetId) :
    idsFrom (edges.push edge) id =
      idsFrom edges id ++ if edge.source = id then [edges.size] else [] := by
  have old : (List.range edges.size).filter (fun i => ((edges.push edge)[i]?).any (·.source == id)) =
      idsFrom edges id := by
    apply List.filter_congr
    intro i hi
    rw [Array.getElem?_push_lt (List.mem_range.mp hi), Array.getElem?_eq_getElem]
  rw [idsFrom, Array.size_push, List.range_succ, List.filter_append, old]
  by_cases h : edge.source = id <;> simp [h]

theorem containsKey_iff (g : Graph) (key : EdgeKey) :
    g.containsKey key = true ↔ key ∈ g.edges.toList.map Edge.key := by
  simp only [containsKey, Array.any_eq_true', beq_iff_eq, List.mem_map, Array.mem_toList_iff]

theorem find?_eq_none_iff (g : Graph) (address : Address) :
    g.find? address = none ↔ address ∉ g.assets.toList.map Asset.address := by
  simp [find?, Array.findIdx?_eq_none_iff]

/-- An edge is added exactly if it joins two different assets of the graph under a new key. -/
theorem addEdge_eq_ok_iff {g g' : Graph} {edge : Edge} {id : EdgeId} :
    g.addEdge edge = .ok (id, g') ↔
      (edge.source < g.assets.size ∧ edge.target < g.assets.size ∧ edge.source ≠ edge.target ∧
        edge.key ∉ g.edges.toList.map Edge.key) ∧
      id = g.edges.size ∧ g' = { g with
        edges := g.edges.push edge
        leaving := g.leaving.modify edge.source (· ++ [g.edges.size]) } := by
  rw [← containsKey_iff, addEdge]
  grind

namespace WellFormed

theorem empty : WellFormed .empty := by
  constructor <;> simp [Graph.empty, outboundOrNone, idsFrom]

theorem addAsset {g : Graph} (h : g.WellFormed) (asset : Asset) : (g.addAsset asset).2.WellFormed := by
  rw [Graph.addAsset]
  cases found : g.find? asset.address with
  | some id => exact h
  | none =>
      have fresh := (find?_eq_none_iff g asset.address).mp found
      refine ⟨?_, h.keys, ?_, ?_, h.source_ne_target, ?_, ?_⟩
      · simpa [List.nodup_append, Array.toList_push, h.addresses] using
          fun a ha he => fresh (List.mem_map.mpr ⟨a, by simpa using ha, he⟩)
      · intro e he
        exact Nat.lt_trans (h.source_lt e he) (by simp)
      · intro e he
        exact Nat.lt_trans (h.target_lt e he) (by simp)
      · simp [h.leaving_size]
      · intro id
        rw [← h.leaving_eq id]
        simp only [outboundOrNone, Array.getElem?_push]
        split
        · simp [*]
        · rfl

theorem addEdge {g g' : Graph} {edge : Edge} {id : EdgeId} (h : g.WellFormed)
    (added : g.addEdge edge = .ok (id, g')) : g'.WellFormed := by
  obtain ⟨⟨source, target, different, fresh⟩, -, rfl⟩ := addEdge_eq_ok_iff.mp added
  refine ⟨h.addresses, ?_, ?_, ?_, ?_, ?_, ?_⟩
  · simpa [List.nodup_append, h.keys] using fun e he hk =>
      fresh (List.mem_map.mpr ⟨e, by simpa using he, hk⟩)
  · intro e he
    rcases Array.mem_push.mp he with he | rfl
    · exact h.source_lt e he
    · exact source
  · intro e he
    rcases Array.mem_push.mp he with he | rfl
    · exact h.target_lt e he
    · exact target
  · intro e he
    rcases Array.mem_push.mp he with he | rfl
    · exact h.source_ne_target e he
    · exact different
  · simp [h.leaving_size]
  · intro id
    have present : edge.source < g.leaving.size := by rw [h.leaving_size]; exact source
    rw [idsFrom_push, ← h.leaving_eq id]
    simp only [outboundOrNone, Array.getElem?_modify]
    by_cases at_source : edge.source = id
    · subst at_source
      simp [present]
    · simp [at_source]

theorem mem_outboundOrNone {g : Graph} (h : g.WellFormed) {id : AssetId} {i : EdgeId} :
    i ∈ g.outboundOrNone id ↔ ∃ e, g.edges[i]? = some e ∧ e.source = id := by
  rw [h.leaving_eq, mem_idsFrom]

theorem outboundOrNone_pairwise {g : Graph} (h : g.WellFormed) (id : AssetId) :
    (g.outboundOrNone id).Pairwise (· < ·) := by
  rw [h.leaving_eq]
  exact idsFrom_pairwise ..

end WellFormed

theorem Built.wellFormed {g : Graph} (h : g.Built) : g.WellFormed := by
  induction h with
  | empty => exact .empty
  | addAsset asset _ ih => exact ih.addAsset asset
  | addEdge _ added ih => exact ih.addEdge added

theorem Built.addAssets {g : Graph} (h : g.Built) (assets : List Asset) :
    (g.addAssets assets).Built := by
  induction assets generalizing g with
  | nil => exact h
  | cons asset assets ih => exact ih (h.addAsset asset)

theorem Built.addEdges {g g' : Graph} (h : g.Built) {edges : List Edge}
    (added : g.addEdges edges = .ok g') : g'.Built := by
  induction edges generalizing g with
  | nil =>
      cases added
      exact h
  | cons edge edges ih =>
      cases first : g.addEdge edge with
      | error e => simp [Graph.addEdges, first] at added
      | ok result =>
          simp only [Graph.addEdges, first] at added
          exact ih (h.addEdge first) added

/-- The graph of some assets and edges is built by additions. -/
theorem Built.of_build {g : Graph} {assets : List Asset} {edges : List Edge}
    (h : build assets edges = .ok g) : g.Built :=
  (Built.empty.addAssets assets).addEdges h

end Arbitrage.Graph
