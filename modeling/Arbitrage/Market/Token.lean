import Arbitrage.Failure
import Arbitrage.Market.Edge

/-!
# The three vault tokens and the resting orders

The tokens that the vault reports are the only ones traded. A base asset is named by symbol, in any
case, or by address. A resting order moves its taker from the token it buys into the token it pays;
a cancelled or filled order reads back with zero amounts.
-/

namespace Arbitrage

/-- The addresses of the collateral, the pool share and the stablecoin, as the vault reports
them. -/
structure Tokens where
  gem : Address
  skr : Address
  sai : Address
  deriving DecidableEq, Repr

namespace Tokens

/-- Symbols and addresses, in the order in which they are searched: should two tokens share an
address, the first gives it its symbol. -/
def all (t : Tokens) : List (String × Address) := [("gem", t.gem), ("skr", t.skr), ("sai", t.sai)]

def assets (t : Tokens) : List Asset := t.all.map fun (symbol, address) => ⟨symbol, address⟩

def symbol? (t : Tokens) (token : Address) : Option String :=
  (t.all.find? (·.2 == token)).map (·.1)

def contains (t : Tokens) (token : Address) : Bool := t.all.any (·.2 == token)

def index? (t : Tokens) (token : Address) : Option AssetId := t.all.findIdx? (·.2 == token)

/-- The token that a symbol or an address names. A symbol is tried first and in any case; an address
must be that of one of the three tokens. -/
def resolveBase (t : Tokens) (name : String) : Except MarketError Address :=
  let wanted := Text.trim name
  match t.all.find? fun (symbol, _) => Text.sameIgnoringCase symbol wanted with
  | some (_, address) => .ok address
  | none =>
    match Address.parse wanted with
    | .ok address =>
      if t.contains address then .ok address else .error (.unknownBaseAsset wanted)
    | .error _ => .error (.unknownBaseAsset wanted)

end Tokens

/-- A resting order: its maker pays `pay` of `payToken` and asks `buy` of `buyToken`. -/
structure Order where
  id : OrderId
  payToken : Address
  pay : Wad
  buyToken : Address
  buy : Wad
  owner : Address
  deriving DecidableEq, Repr

/-- Neither amount is zero. The book keeps what was cancelled or filled, with zeros for amounts. -/
def Order.isLive (o : Order) : Bool := !o.pay.isZero && !o.buy.isZero

end Arbitrage
