import Arbitrage.Failure
import Arbitrage.Market.Edge

/-!
# The graph of assets and exchanges

A directed multigraph: assets and edges keep the numbers under which they were added, and for every
asset the edges that leave it are listed as they come. An address is entered once, an edge joins two
different assets of the graph, and no two edges have one key; an addition that would break this
fails and changes nothing. What is within so many hops of an asset is found by a search with a queue,
which meets every asset once.
-/

namespace Arbitrage

structure Graph where
  assets : Array Asset := #[]
  edges : Array Edge := #[]
  /-- For every asset, the edges that leave it in the order of their numbers. -/
  leaving : Array (List EdgeId) := #[]
  deriving DecidableEq, Repr

namespace Graph

def empty : Graph := {}

/-- The number of the asset with an address, found by going through all assets. -/
def find? (g : Graph) (address : Address) : Option AssetId :=
  g.assets.findIdx? (·.address == address)

def containsKey (g : Graph) (key : EdgeKey) : Bool := g.edges.any (·.key == key)

/-- Add an asset, or find the one that already has its address; that one keeps the label it had. -/
def addAsset (g : Graph) (asset : Asset) : AssetId × Graph :=
  match g.find? asset.address with
  | some id => (id, g)
  | none =>
    (g.assets.size, { g with assets := g.assets.push asset, leaving := g.leaving.push [] })

/-- Add an edge between two different assets under a new key. Of several things wrong with an edge
the first in this order is reported: its source, its target, both being the same, and its key. -/
def addEdge (g : Graph) (edge : Edge) : Except GraphError (EdgeId × Graph) :=
  if g.assets.size ≤ edge.source then .error (.invalidAssetIndex edge.source)
  else if g.assets.size ≤ edge.target then .error (.invalidAssetIndex edge.target)
  else if edge.source = edge.target then .error (.selfLoop edge.key.text)
  else if g.containsKey edge.key then .error (.duplicateEdge edge.key.text)
  else
    let id := g.edges.size
    .ok (id, { g with
      edges := g.edges.push edge
      leaving := g.leaving.modify edge.source (· ++ [id]) })

def addAssets (g : Graph) (assets : List Asset) : Graph :=
  assets.foldl (fun g asset => (g.addAsset asset).2) g

/-- Add edges one after the other, up to the first that fails; what was added by then is lost with
it. -/
def addEdges (g : Graph) : List Edge → Except GraphError Graph
  | [] => .ok g
  | edge :: edges =>
    match g.addEdge edge with
    | .ok (_, g) => g.addEdges edges
    | .error error => .error error

/-- The graph of some assets and of edges between them, the assets first, so that edges refer to
them by number. -/
def build (assets : List Asset) (edges : List Edge) : Except GraphError Graph :=
  (empty.addAssets assets).addEdges edges

def asset (g : Graph) (id : AssetId) : Except GraphError Asset :=
  match g.assets[id]? with
  | some asset => .ok asset
  | none => .error (.invalidAssetIndex id)

def edge (g : Graph) (id : EdgeId) : Except GraphError Edge :=
  match g.edges[id]? with
  | some edge => .ok edge
  | none => .error (.invalidEdgeIndex id)

def assetId (g : Graph) (address : Address) : Except GraphError AssetId :=
  match g.find? address with
  | some id => .ok id
  | none => .error (.assetNotFound address)

/-- The edges that leave an asset, in the order of their numbers; an asset that is not there is an
error here. -/
def outbound (g : Graph) (id : AssetId) : Except GraphError (List EdgeId) :=
  match g.leaving[id]? with
  | some edges => .ok edges
  | none => .error (.invalidAssetIndex id)

/-- The edges that leave an asset, none for an asset that is not there. -/
def outboundOrNone (g : Graph) (id : AssetId) : List EdgeId := (g.leaving[id]?).getD []

/-- The edges from one asset to another, in the order of their numbers. -/
def between (g : Graph) (source target : AssetId) : List EdgeId :=
  (g.outboundOrNone source).filter fun id => (g.edges[id]?).any (·.target == target)

/-- The assets one edge away, an asset as often as there are edges to it. -/
def successors (g : Graph) (id : AssetId) : List AssetId :=
  (g.outboundOrNone id).filterMap fun edge => (g.edges[edge]?).map (·.target)

/-- A search under way: every asset that waits in the queue has been met, and none waits twice. -/
structure Search where
  /-- The assets met so far. -/
  reached : List AssetId
  /-- Those that are still to be left, in the order in which they were met, each with the hops that
  led to it. -/
  queue : List (AssetId × Nat)

/-- Meet an asset; one that was met before is passed over, however many hops led to it then. -/
def Search.meet (hops : Nat) (s : Search) (asset : AssetId) : Search :=
  if s.reached.contains asset then s else ⟨s.reached ++ [asset], s.queue ++ [(asset, hops)]⟩

/-- The edges that lead to an asset not met yet; meeting an asset takes at least one of them
away. -/
def unmet (g : Graph) (reached : List AssetId) : List Edge :=
  g.edges.toList.filter fun e => !reached.contains e.target

/-- An asset waits in the queue only once it has been met, so that each step makes this smaller. -/
def stepsLeft (g : Graph) (s : Search) : Nat := 2 * (g.unmet s.reached).length + s.queue.length

theorem exists_of_mem_successors {g : Graph} {a b : AssetId} (next : b ∈ g.successors a) :
    ∃ e ∈ g.edges, e.target = b := by
  obtain ⟨id, -, found⟩ := List.mem_filterMap.mp next
  obtain ⟨e, listed, target⟩ := Option.map_eq_some_iff.mp found
  exact ⟨e, Array.mem_of_getElem? listed, target⟩

theorem stepsLeft_meet_le {g : Graph} {e : Edge} (known : e ∈ g.edges) (hops : Nat) (s : Search) :
    g.stepsLeft (s.meet hops e.target) ≤ g.stepsLeft s := by
  rw [Search.meet]
  split
  · exact Nat.le_refl _
  · next new =>
      have met : g.unmet (s.reached ++ [e.target]) =
          (g.unmet s.reached).filter fun f => decide (f.target ≠ e.target) := by
        rw [unmet, unmet, List.filter_filter]
        refine List.filter_congr fun f _ => ?_
        simp [Bool.and_comm]
      have fewer : (g.unmet (s.reached ++ [e.target])).length < (g.unmet s.reached).length := by
        rw [met, List.length_filter_lt_length_iff_exists]
        exact ⟨e, List.mem_filter.mpr ⟨by simpa using known, by simpa using new⟩, by simp⟩
      simp only [stepsLeft, List.length_append, List.length_singleton]
      omega

theorem stepsLeft_foldl_le {g : Graph} {assets : List AssetId}
    (known : ∀ a ∈ assets, ∃ e ∈ g.edges, e.target = a) (hops : Nat) (s : Search) :
    g.stepsLeft (assets.foldl (Search.meet hops) s) ≤ g.stepsLeft s := by
  induction assets generalizing s with
  | nil => exact Nat.le_refl _
  | cons a assets ih =>
      obtain ⟨⟨e, listed, rfl⟩, others⟩ := List.forall_mem_cons.mp known
      exact Nat.le_trans (ih others _) (stepsLeft_meet_le listed hops s)

/-- Leave the assets that wait, the one that was met first before the others, and meet those one edge
away; an asset that is `limit` hops from the start is not left. -/
def search (g : Graph) (limit : Nat) : Search → List AssetId
  | ⟨reached, []⟩ => reached
  | ⟨reached, (asset, hops) :: queue⟩ =>
    if hops = limit then g.search limit ⟨reached, queue⟩
    else g.search limit ((g.successors asset).foldl (Search.meet (hops + 1)) ⟨reached, queue⟩)
termination_by s => g.stepsLeft s
decreasing_by
  · simp only [stepsLeft, List.length_cons]
    omega
  · refine Nat.lt_of_le_of_lt (stepsLeft_foldl_le (fun _ => exists_of_mem_successors) _ _) ?_
    simp only [stepsLeft, List.length_cons]
    omega

/-- The assets at most `hops` edges from a start, itself included, in the order in which they are
met; none if there is no start. -/
def reachableWithin (g : Graph) (start : AssetId) (hops : Nat) : List AssetId :=
  if start < g.assets.size then g.search hops ⟨[start], [(start, 0)]⟩ else []

end Graph

end Arbitrage
