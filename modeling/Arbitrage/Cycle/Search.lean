import Arbitrage.Cycle.Path

/-!
# The cycles at an asset

All cycles of two up to `maxDepth` edges that meet no asset twice, in lexicographic order of their
edge numbers. The search goes depth first. `room` is the number of edges still allowed; a branch
ends when it would meet an asset again, use a market again, or leave no room for the edge back.
-/

namespace Arbitrage.Graph

/-- The ways of going on from `asset` and back to `base` in at most `room` edges. The base and the
assets on the way are `visited`; the markets on the way are `used`. -/
def closings (g : Graph) (base : AssetId) :
    (room : Nat) → (asset : AssetId) → (visited : List AssetId) → (used : List EdgeKey) → List Path
  | 0, _, _, _ => []
  | room + 1, asset, visited, used =>
    (g.outboundOrNone asset).flatMap fun id =>
      match g.edges[id]? with
      | none => []
      | some edge =>
        if used.contains edge.key then []
        else if edge.target = base then if used.isEmpty then [] else [[id]]
        else if room = 0 ∨ visited.contains edge.target then []
        else
          let rest := g.closings base room edge.target (edge.target :: visited) (edge.key :: used)
          rest.map (id :: ·)

/-- The cycles at `base` of at most `maxDepth` edges. -/
def cycles (g : Graph) (base : AssetId) (maxDepth : Nat) : List Path :=
  if base < g.assets.size ∧ minPathLength ≤ maxDepth then g.closings base maxDepth base [base] []
  else []

/-- The most edges for which a search can set room aside: the number of an edge takes eight bytes,
and bytes are counted in 63 bits. -/
def mostRoom : Nat := (2 ^ 63 - 1) / 8

/-- The cycles at `base` of at most `maxDepth` edges, unless a search would have to set aside room
for more edges than it can. -/
def cycles? (g : Graph) (base : AssetId) (maxDepth : Nat) : Option (List Path) :=
  if base < g.assets.size ∧ mostRoom < maxDepth then none else some (g.cycles base maxDepth)

theorem cycles?_eq_some {g : Graph} {base : AssetId} {maxDepth : Nat} (h : maxDepth ≤ mostRoom) :
    g.cycles? base maxDepth = some (g.cycles base maxDepth) :=
  if_neg fun hroom => Nat.not_lt_of_le h hroom.2

end Arbitrage.Graph
