import Arbitrage.Market.Graph
import Arbitrage.Settings.Strategy

/-!
# Paths and the cycles among them

A path is a list of edge numbers. It is a cycle at a base asset if it has at least two edges and no
more than allowed, all of them known and joined end to end, leaves from the base and returns to it,
and uses no market twice; `checkCycle` reports the first of these that fails.
-/

namespace Arbitrage

/-- A sequence of edges by number. Whether it is a cycle is for `checkCycle` to say. -/
abbrev Path := List EdgeId

namespace Graph

/-- The edges of a path, in order, unless one of them is unknown; then the first such number is the
error. -/
def pathEdges (g : Graph) : Path → Except PathError (List Edge)
  | [] => .ok []
  | id :: path =>
    match g.edge id with
    | .ok edge => (g.pathEdges path).map (edge :: ·)
    | .error error => .error (.invalid error.message)

/-- The first place, counted from `index`, at which an edge does not start where the one before it
ends. -/
def firstGap? : (index : Nat) → List Edge → Option Nat
  | index, e :: f :: edges =>
    if e.target = f.source then firstGap? (index + 1) (f :: edges) else some index
  | _, _ => none

/-- The first key that occurs a second time, given the keys met before. A cycle may use every market
once. -/
def firstRepeat? : (seen : List EdgeKey) → List Edge → Option EdgeKey
  | _, [] => none
  | seen, e :: edges =>
    if seen.contains e.key then some e.key else firstRepeat? (e.key :: seen) edges

/-- Whether a list of edges leaves from an asset and returns to it. -/
def closesAt (base : AssetId) (edges : List Edge) : Bool :=
  edges.head?.any (·.source == base) && edges.getLast?.any (·.target == base)

/-- Check that a path is a cycle at `base` of at most `maxDepth` edges. The conditions are checked
in a fixed order, and the error is that of the first one that fails: it must not be empty, too short
or too long, all its edges must be known and follow one another, it must leave from the base and
return to it, and no market may occur twice. -/
def checkCycle (g : Graph) (base : AssetId) (maxDepth : Nat) (path : Path) :
    Except PathError Unit :=
  if path.isEmpty then .error .empty
  else if path.length < minPathLength then .error (.tooShort minPathLength path.length)
  else if maxDepth < path.length then .error (.tooLong maxDepth path.length)
  else
    match g.pathEdges path with
    | .error error => .error error
    | .ok edges =>
      match firstGap? 0 edges with
      | some index => .error (.disconnected index (index + 1))
      | none =>
        if closesAt base edges then
          match firstRepeat? [] edges with
          | some key => .error (.repeatedEdge key.text)
          | none => .ok ()
        else .error .notCycle

/-- The exact rate of some edges taken one after the other, without any rounding in between. -/
def chainRate (edges : List Edge) : Rate := edges.foldl (fun r e => r.compose e.rate) .unity

/-- The exact rate of a path from end to end. -/
def pathRate (g : Graph) (path : Path) : Except PathError Rate := (g.pathEdges path).map chainRate

/-- The label of an asset, or a question mark if the asset is not there. -/
def symbolOf (g : Graph) (id : AssetId) : String :=
  match g.assets[id]? with
  | some asset => asset.symbol
  | none => "?"

def describeEdge (g : Graph) (id : EdgeId) : String :=
  match g.edges[id]? with
  | some edge => " -[" ++ edge.key.text ++ "]-> " ++ g.symbolOf edge.target
  | none => " -[?" ++ toString id ++ "]->"

/-- A path in words: where it starts, and every market with the asset that it leads to. Edges that
are not there are told by their numbers. -/
def describe (g : Graph) (path : Path) : String :=
  let start := match path.head?.bind (g.edges[·]?) with
    | some edge => g.symbolOf edge.source
    | none => ""
  start ++ String.join (path.map g.describeEdge)

end Graph

end Arbitrage
