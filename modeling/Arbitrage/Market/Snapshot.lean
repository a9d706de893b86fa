import Arbitrage.Market.Graph
import Arbitrage.Market.Token
import Arbitrage.Market.Vault
import Arbitrage.Settings.Strategy

/-!
# The market at one block

A snapshot is the graph of everything that can be traded at one block: the edges that the vault
offers, and behind them, in the order of their numbers, the live orders between two different vault
tokens that are both within reach of the base asset. It is a function of what was read, and the
order in which the resting orders were read leaves no trace.
-/

namespace Arbitrage

/-- What is read from the chain for one block, before anything is made of it. -/
structure MarketState where
  block : Nat
  vault : Vault
  orders : List Order
  /-- The trading account's holding of the base asset, which bounds what a plan can put in. -/
  balance : Wad
  deriving DecidableEq, Repr

/-- Everything that can be traded at one block, with the number that the base asset has in the
graph. -/
structure Snapshot where
  block : Nat
  graph : Graph
  base : AssetId
  balance : Wad
  deriving DecidableEq, Repr

namespace Snapshot

/-- The vault tokens lead the assets of every snapshot, in the order of `Tokens.all`. -/
def vaultAssets : VaultAssets := ⟨0, 1, 2⟩

/-- The edge of an order between two different vault tokens; an order of any other tokens is not
traded. -/
def orderEdge? (tokens : Tokens) (order : Order) : Option Edge := do
  let source ← tokens.index? order.buyToken
  let target ← tokens.index? order.payToken
  if source = target then none
  else return ⟨source, target, .order order.id order.pay order.buy⟩

/-- The edges of the live orders, by number, so that the order in which they were read leaves no
trace. -/
def orderEdges (tokens : Tokens) (orders : List Order) : List Edge :=
  ((orders.filter Order.isLive).mergeSort (fun a b => a.id ≤ b.id)).filterMap (orderEdge? tokens)

/-- A graph whose assets are the vault tokens, which may be fewer than three if the vault names one
twice. -/
def tokenGraph (tokens : Tokens) (edges : List Edge) : Except MarketError Graph :=
  (Graph.build tokens.assets edges).mapError .graph

/-- The snapshot of what was read. A graph of everything on offer tells what is within reach of the
base asset; the snapshot keeps all that the vault offers, and of the orders those with both ends
within reach. -/
def take (state : MarketState) (strategy : Strategy) (tokens : Tokens) :
    Except MarketError Snapshot := do
  unless tokens.contains strategy.base do
    throw (.unknownBaseAsset strategy.base.checksum)
  let fixed ← state.vault.fixedEdges vaultAssets
  let offered := orderEdges tokens state.orders
  let candidate ← tokenGraph tokens (fixed ++ offered)
  let base ← (candidate.assetId strategy.base).mapError .graph
  let reached := candidate.reachableWithin base strategy.maxDepth
  let graph ← tokenGraph tokens
    (fixed ++ offered.filter fun e => reached.contains e.source && reached.contains e.target)
  return ⟨state.block, graph, base, state.balance⟩

end Snapshot

end Arbitrage
