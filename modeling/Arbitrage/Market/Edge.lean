import Arbitrage.Amount.Decimal
import Arbitrage.Amount.Rate
import Arbitrage.Address

/-!
# Assets and exchanges

An edge is one way of turning an asset into another: a vault operation at a fixed price, or a
resting order of the book. Its key names the market behind it, so that no cycle uses one twice.
An edge is linear up to its capacity, and what comes out is rounded down.
-/

namespace Arbitrage

/-- The place of an asset in a graph; it stays with the asset while the graph grows. -/
abbrev AssetId := Nat

/-- The place of an edge in a graph, counted in the order in which the edges were added. -/
abbrev EdgeId := Nat

/-- A token with its label; two assets are one if their addresses are, whatever they are called. -/
structure Asset where
  symbol : String
  address : Address
  deriving DecidableEq, Repr

def Asset.unlabelled (address : Address) : Asset := ⟨address.short, address⟩

/-- The operations of the vault. Each turns one of its three tokens into another. -/
inductive VaultOp
  /-- Collateral into pool shares. -/
  | join
  /-- Pool shares into collateral. -/
  | exit
  /-- Pool shares into surplus stablecoin. -/
  | boom
  /-- Stablecoin into liquidated pool shares. -/
  | bust
  deriving DecidableEq, Repr

namespace VaultOp

def all : List VaultOp := [join, exit, boom, bust]

def name : VaultOp → String
  | join => "join"
  | exit => "exit"
  | boom => "boom"
  | bust => "bust"

/-- Whether the operation stays available once the vault is caged: only taking collateral out
does. -/
def allowedWhenCaged (op : VaultOp) : Bool := op == exit

end VaultOp

/-- The number of a resting order, as the book counts them from one. -/
structure OrderId where
  word : Word
  deriving DecidableEq, Repr

namespace OrderId

def ofNat (n : Nat) : OrderId := ⟨BitVec.ofNat 256 n⟩

def text (id : OrderId) : String := "#" ++ toString id.word.toNat

instance : LE OrderId := ⟨fun a b => a.word ≤ b.word⟩

instance (a b : OrderId) : Decidable (a ≤ b) := inferInstanceAs (Decidable (a.word ≤ b.word))

end OrderId

/-- The market behind an edge. Two edges with one key would draw on the same supply, so no graph has
two and no cycle uses one twice. -/
inductive EdgeKey
  | vault (op : VaultOp)
  | order (id : OrderId)
  deriving DecidableEq, Repr

def EdgeKey.text : EdgeKey → String
  | .vault op => op.name
  | .order id => "take " ++ id.text

/-- How much a fixed-price edge supplies. Where the limit is on what comes out, it has to be turned
into one on what goes in before it can be compared. -/
inductive Capacity
  | unbounded
  /-- At most this much goes in. -/
  | input (limit : Wad)
  /-- At most this much comes out. -/
  | output (limit : Wad)
  deriving DecidableEq, Repr

/-- The terms of an exchange: what it pays for an input, and how much of it there is. -/
inductive Terms
  /-- A vault operation paying `price` units for one. -/
  | fixedPrice (op : VaultOp) (price : Wad) (capacity : Capacity)
  /-- A resting order that pays `pay` for `buy`, and in parts at the same ratio. -/
  | order (id : OrderId) (pay buy : Wad)
  deriving DecidableEq, Repr

/-- An exchange of one asset for another, in one direction only. -/
structure Edge where
  source : AssetId
  target : AssetId
  terms : Terms
  deriving DecidableEq, Repr

namespace Edge

def key (e : Edge) : EdgeKey :=
  match e.terms with
  | .fixedPrice op _ _ => .vault op
  | .order id _ _ => .order id

def vaultOp? (e : Edge) : Option VaultOp :=
  match e.terms with
  | .fixedPrice op _ _ => some op
  | .order _ _ _ => none

def orderId? (e : Edge) : Option OrderId :=
  match e.terms with
  | .fixedPrice _ _ _ => none
  | .order id _ _ => some id

/-- Units that come out for one that goes in, as an exact fraction. An order that asks nothing has
rate zero, since there is nothing to divide by. -/
def rate (e : Edge) : Rate :=
  match e.terms with
  | .fixedPrice _ price _ => .ofPrice price
  | .order _ pay buy => (Rate.ofFraction? pay.raw buy.raw).getD (.ofPrice .zero)

/-- What comes out for an input: the exact image under the rate, rounded down to a step. -/
def output (e : Edge) (input : Wad) : Wad := e.rate.apply input

/-- The largest input, if there is one. A limit on what comes out is turned around by the rate, and
is zero for an operation that pays nothing. -/
def maxInput? (e : Edge) : Option Wad :=
  match e.terms with
  | .fixedPrice _ _ .unbounded => none
  | .fixedPrice _ _ (.input limit) => some limit
  | .fixedPrice _ _ (.output limit) => some ((e.rate.maxInput? limit).getD .zero)
  | .order _ _ buy => some buy

/-- Whether an input stays within the capacity; an edge without one admits everything. -/
def admits (e : Edge) (input : Wad) : Bool :=
  match e.maxInput? with
  | some limit => decide (input ≤ limit)
  | none => true

end Edge

end Arbitrage
