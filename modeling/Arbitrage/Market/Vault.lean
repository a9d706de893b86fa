import Arbitrage.Failure
import Arbitrage.Market.Edge

/-!
# The vault and its fixed prices

The vault pools collateral (gem), issues shares of the pool (skr) and stands behind a stablecoin
(sai). Its state fixes the price and the capacity of four operations:

| operation | turns     | price             | capacity                                 |
|-----------|-----------|-------------------|------------------------------------------|
| join      | gem → skr | `1 / per`         | none                                     |
| exit      | skr → gem | `per`             | none                                     |
| boom      | skr → sai | `tag * (2 - gap)` | `joy / price` going in                   |
| bust      | sai → skr | `1 / (tag * gap)` | `min (woe / (tag * gap)) fog` coming out |

An operation whose price or capacity rounds to zero is not offered. A caged vault offers only exit,
and a vault whose price feed is stale offers nothing at all.
-/

namespace Arbitrage

/-- A reading of the price feed; the value means nothing unless the feed is live. -/
structure Feed where
  value : Wad
  live : Bool
  deriving DecidableEq, Repr

def Feed.isUsable (feed : Feed) : Bool := feed.live && !feed.value.isZero

/-- The state of the vault at one block, as far as prices and capacities depend on it. -/
structure Vault where
  /-- Collateral behind one share. -/
  per : Ray
  /-- Reference price of a share in stablecoin. -/
  tag : Wad
  /-- Spread around the reference price, about one. -/
  gap : Wad
  /-- Surplus stablecoin that boom pays out. -/
  joy : Wad
  /-- Bad debt that bust covers. -/
  woe : Wad
  /-- Liquidated shares that bust sells. -/
  fog : Wad
  /-- Whether the vault has been caged. -/
  off : Bool
  feed : Feed
  deriving DecidableEq, Repr

structure VaultAssets where
  gem : AssetId
  skr : AssetId
  sai : AssetId
  deriving DecidableEq, Repr

def Amount.nonzero? {s : Scale} (a : Amount s) : Option (Amount s) :=
  if a.isZero then none else some a

namespace Vault

/-- Shares for one unit of collateral. The product of a wad and a ray makes the quotient by a ray a
wad, and a `per` of zero has no inverse. -/
def joinPrice? (v : Vault) : Option Wad :=
  if v.per.isZero then none
  else Amount.nonzero? ⟨Scale.wad.unit * Scale.ray.unit / v.per.raw⟩

/-- Collateral for one share, with the digits of a ray cut to those of a wad. -/
def exitPrice? (v : Vault) : Option Wad := (v.per.rescale .wad).nonzero?

/-- Stablecoin for one share sold; none once the spread exceeds two, where the factor in the price
would be negative. -/
def boomPrice? (v : Vault) : Option Wad := do
  let spread ← (Amount.ofUnits 2).sub? v.gap
  Amount.nonzero? (v.tag * spread : Wad)

/-- Stablecoin asked for one share bought, which is what `bust` counts in; the price of its edge is
the inverse. -/
def bustCost? (v : Vault) : Option Wad := Amount.nonzero? (v.tag * v.gap : Wad)

def boomEdge? (v : Vault) (ids : VaultAssets) : Option Edge := do
  let price ← v.boomPrice?
  let capacity ← (← v.joy.div? price).nonzero?
  return ⟨ids.skr, ids.sai, .fixedPrice .boom price (.input capacity)⟩

def bustEdge? (v : Vault) (ids : VaultAssets) : Option Edge := do
  let cost ← v.bustCost?
  let price ← (← cost.inverse?).nonzero?
  let capacity ← ((← v.woe.div? cost).min v.fog).nonzero?
  return ⟨ids.sai, ids.skr, .fixedPrice .bust price (.output capacity)⟩

/-- The edge of an operation, if the state gives it a price and a capacity, neither of them rounded
to zero. -/
def edge? (v : Vault) (ids : VaultAssets) : VaultOp → Option Edge
  | .join => v.joinPrice?.map fun price => ⟨ids.gem, ids.skr, .fixedPrice .join price .unbounded⟩
  | .exit => v.exitPrice?.map fun price => ⟨ids.skr, ids.gem, .fixedPrice .exit price .unbounded⟩
  | .boom => v.boomEdge? ids
  | .bust => v.bustEdge? ids

/-- The edges that the vault offers, in the order of the operations; a price feed that cannot be
trusted is an error, and not an empty list. -/
def fixedEdges (v : Vault) (ids : VaultAssets) : Except MarketError (List Edge) :=
  if v.feed.isUsable then
    .ok (VaultOp.all.filterMap fun op =>
      if v.off && !op.allowedWhenCaged then none else v.edge? ids op)
  else .error .staleFeed

end Vault

end Arbitrage
