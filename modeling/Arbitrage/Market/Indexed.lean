import Arbitrage.Market.Graph
import Arbitrage.Simulation.Table

/-!
# A graph with its indexes

While a graph grows it keeps, beside its tables, the ways into them: the number of every address, the
edges between any two assets, and the keys that are taken. Look-ups go through the indexes alone, so
each addition has to enter what it adds in all of them. An addition works in place: it may have
touched the graph by the time it fails, and the graph that a failure leaves is part of what it does.
-/

namespace Arbitrage.Graph

/-- A graph and the indexes into its tables. That the two tell the same is not part of the
structure: it is what the additions have to keep. -/
structure Indexed extends Graph where
  /-- The numbers of the assets by their addresses, in place of going through the assets. -/
  numbers : Table Address AssetId := .empty
  /-- The edges from one asset to another, in the order in which they come. -/
  pairs : Table (AssetId × AssetId) (List EdgeId) := .empty
  /-- The keys of the edges, with one that has been taken for an edge still under way. -/
  keys : List EdgeKey := []

/-- Work on a graph that may fail, and leaves a graph in either case. -/
abbrev Edit (α : Type) := ExceptT GraphError (StateM Indexed) α

namespace Indexed

/-- The number under which an address is entered, by the index alone. -/
def assetId (x : Indexed) (address : Address) : Except GraphError AssetId :=
  match x.numbers.find? address with
  | some id => .ok id
  | none => .error (.assetNotFound address)

/-- The edges entered for two assets, by the index alone. -/
def between (x : Indexed) (source target : AssetId) : List EdgeId :=
  (x.pairs.find? (source, target)).getD []

def containsKey (x : Indexed) (key : EdgeKey) : Bool := x.keys.contains key

/-- Add an asset, or find the one that already has its address. The index learns of it before the
tables do. -/
def addAsset (asset : Asset) : StateM Indexed AssetId := do
  match (← get).numbers.find? asset.address with
  | some id => return id
  | none =>
    let id := (← get).assets.size
    modify fun x => { x with numbers := x.numbers.insert asset.address id }
    modify fun x => { x with assets := x.assets.push asset, leaving := x.leaving.push [] }
    return id

/-- Take a key, and learn whether it was free; one that was taken already is left as it is. -/
def takeKey (key : EdgeKey) : StateM Indexed Bool := modifyGet fun x =>
  if x.containsKey key then (false, x) else (true, { x with keys := key :: x.keys })

/-- Insist that there is an asset of a number, and fail without touching the graph if there is
none. -/
def expectAsset (id : AssetId) : Edit Unit := do
  if (← get).assets.size ≤ id then throw (.invalidAssetIndex id)

/-- Add an edge between two different assets under a new key, entering it in all indexes. Nothing
after the key has been taken can fail. -/
def addEdge (edge : Edge) : Edit EdgeId := do
  expectAsset edge.source
  expectAsset edge.target
  if edge.source = edge.target then throw (.selfLoop edge.key.text)
  unless ← takeKey edge.key do throw (.duplicateEdge edge.key.text)
  let id := (← get).edges.size
  modify fun x => { x with
    pairs := x.pairs.insert (edge.source, edge.target)
      (x.between edge.source edge.target ++ [id]) }
  modify fun x => { x with leaving := x.leaving.modify edge.source (· ++ [id]) }
  modify fun x => { x with edges := x.edges.push edge }
  return id

end Indexed

/-- What can be added to a graph, so that a run of additions of both kinds is a list. -/
inductive Addition
  | asset (asset : Asset)
  | edge (edge : Edge)

/-- The graph after an addition; one that fails changes nothing. -/
def grow (g : Graph) : Addition → Graph
  | .asset asset => (g.addAsset asset).2
  | .edge edge =>
    match g.addEdge edge with
    | .ok (_, g) => g
    | .error _ => g

/-- What additions make of the graph without assets. -/
def after (additions : List Addition) : Graph := additions.foldl grow empty

namespace Indexed

/-- The graph that an addition leaves with its indexes, whether it succeeds or fails: unlike the
graph on its own, it is not put back. -/
def grow (x : Indexed) : Addition → Indexed
  | .asset asset => ((addAsset asset).run x).2
  | .edge edge => ((addEdge edge).run.run x).2

/-- What additions make of the graph without assets, with its indexes. -/
def after (additions : List Addition) : Indexed := additions.foldl grow {}

end Indexed

end Arbitrage.Graph
