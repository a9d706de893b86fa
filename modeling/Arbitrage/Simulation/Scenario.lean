import Arbitrage.Simulation.Chain

/-!
# Scenarios

A scenario is a simulated chain together with the limits of the strategy to be run on it. All start
from the same market: a vault with its feed at 500 and a spread of 1.05, an empty book, and a keeper
that holds a thousand of each token.
-/

namespace Arbitrage

/-- A simulated chain and the limits to trade within, which belong together in a run. -/
structure Scenario where
  chain : SimulatedChain
  minProfit : Wad
  maxEngagement : Wad

namespace Scenario

def tokens : Tokens := ⟨.repeated 0x11, .repeated 0x22, .repeated 0x33⟩

def contracts : Contracts := ⟨.repeated 0xa1, .repeated 0xa2, .repeated 0xa3, none⟩

def keeper : Address := .repeated 0x0c

def maker : Address := .repeated 0x99

def executor : Address := .repeated 0xee

/-- Shares at par, a feed at 500, a spread of 1.05, and nothing to sell or to cover. -/
def vault : Vault where
  per := .one
  tag := .ofUnits 500
  gap := ⟨1050000000000000000⟩
  joy := .zero
  woe := .zero
  fog := .zero
  off := false
  feed := ⟨.ofUnits 500, true⟩

def base : Scenario where
  chain := {
    account := keeper
    ledger := {
      tokens, contracts, vault
      orders := .empty
      balances := ((Table.empty.insert (tokens.gem, keeper) (.ofUnits 1000)).insert
        (tokens.skr, keeper) (.ofUnits 1000)).insert (tokens.sai, keeper) (.ofUnits 1000)
      allowances := .empty
      shares := .ofUnits 1110
      blocked := [] } }
  minProfit := .one
  maxEngagement := .ofUnits 100

def withLimits (s : Scenario) (minProfit maxEngagement : Nat) : Scenario :=
  { s with minProfit := .ofUnits minProfit, maxEngagement := .ofUnits maxEngagement }

def onLedger (s : Scenario) (f : Ledger → Ledger) : Scenario :=
  { s with chain := { s.chain with ledger := f s.chain.ledger } }

/-- Put an order of the maker on the book, in place of one of the same number. -/
def withOrder (s : Scenario) (id : Nat) (payToken : Address) (pay : Nat) (buyToken : Address)
    (buy : Nat) : Scenario :=
  let order : Order := ⟨.ofNat id, payToken, .ofUnits pay, buyToken, .ofUnits buy, maker⟩
  s.onLedger fun l => { l with orders := l.orders.insert order.id order }

def withVault (s : Scenario) (vault : Vault) : Scenario := s.onLedger ({ · with vault })

def withBalance (s : Scenario) (token : Address) (amount : Wad) : Scenario :=
  s.onLedger (·.setBalance token keeper amount)

def withShares (s : Scenario) (shares : Wad) : Scenario := s.onLedger ({ · with shares })

/-- Three orders that form a cycle from sai to skr to gem to sai, worth 15 on 100. -/
def orderCycle : Scenario :=
  (((base.withLimits 13 100).withOrder 1 tokens.skr 105 tokens.sai 100).withOrder
    2 tokens.gem 110 tokens.skr 105).withOrder 3 tokens.sai 115 tokens.gem 110

/-- Join at par, then an order that pays 110 gem for 100 skr. -/
def joinAndSell : Scenario :=
  (((base.withLimits 5 100).withBalance tokens.skr .zero).withShares (.ofUnits 110)).withOrder
    1 tokens.gem 110 tokens.skr 100

/-- An order that pays 110 skr for 100 gem, then exit at par. -/
def buyAndExit : Scenario :=
  (((base.withLimits 5 100).withBalance tokens.skr .zero).withShares (.ofUnits 110)).withOrder
    1 tokens.skr 110 tokens.gem 100

/-- The strategy for a base asset, within the limits of the scenario. -/
def strategy (s : Scenario) (base : String) : Except Failure Strategy := do
  let base ← (tokens.resolveBase base).mapError .market
  (Strategy.make base s.minProfit s.maxEngagement).mapError .settings

end Scenario

end Arbitrage
