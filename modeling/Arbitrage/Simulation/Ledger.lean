import Arbitrage.Contract.Call
import Arbitrage.Market.Token
import Arbitrage.Market.Vault
import Arbitrage.Simulation.Table

/-!
# What calls do to a simulated ledger

The ledger holds the vault, the order book, all balances and allowances, and the number of pool
shares issued. Each call moves tokens at the contracts' own prices:

| call   | the caller pays                      | the caller gets            |
|--------|--------------------------------------|----------------------------|
| `join` | `wad * per` gem                      | `wad` skr, newly issued    |
| `exit` | `wad` skr, retired                   | `wad * per` gem            |
| `boom` | `wad` skr, retired                   | `wad * tag * (2 - gap)` sai |
| `bust` | `wad * tag * gap` sai                | `wad` skr                  |
| `take` | the order's share of its `buy` amount | `quantity` of its `pay` token |

What the caller pays must be allowed to the contract that pulls it. A call that reverts leaves no
trace. A batch moves the caller's tokens to the executor, makes every invocation in its name, and
moves all that it holds of these tokens back; it is undone as a whole if any part of it reverts.
-/

namespace Arbitrage

/-- Why a call has no effect; the two are told apart because the second must never come about. -/
inductive Halt
  /-- The call is undone, as a contract undoes it: the transaction is mined and has failed. -/
  | reverted
  /-- The ledger is in a state that the contracts rule out: a difference would be negative, or an
  order that pays nothing is taken. -/
  | impossible
  deriving DecidableEq, Repr

/-- The state that calls act on. What is not entered in a table is zero. -/
structure Ledger where
  tokens : Tokens
  contracts : Contracts
  vault : Vault
  orders : Table OrderId Order
  balances : Table (Address × Address) Wad
  allowances : Table (Address × Address × Address) Word
  /-- Pool shares issued, wherever they are held. -/
  shares : Wad
  /-- Orders that cannot be taken, although they rest on the book. -/
  blocked : List OrderId

namespace Ledger

/-- The orders of the book by number, as they are listed to whoever reads it. -/
def book (l : Ledger) : List Order :=
  (l.orders.entries.map Prod.snd).mergeSort (fun a b => a.id ≤ b.id)

def balance (l : Ledger) (token owner : Address) : Wad :=
  (l.balances.find? (token, owner)).getD .zero

def allowance (l : Ledger) (token owner spender : Address) : Word :=
  (l.allowances.find? (token, owner, spender)).getD 0

def setBalance (l : Ledger) (token owner : Address) (amount : Wad) : Ledger :=
  { l with balances := l.balances.insert (token, owner) amount }

def approve (l : Ledger) (token owner spender : Address) (amount : Word) : Ledger :=
  { l with allowances := l.allowances.insert (token, owner, spender) amount }

def credit (l : Ledger) (token owner : Address) (amount : Wad) : Ledger :=
  l.setBalance token owner (l.balance token owner + amount)

def debit (l : Ledger) (token owner : Address) (amount : Wad) : Except Halt Ledger :=
  match (l.balance token owner).sub? amount with
  | some rest => .ok (l.setBalance token owner rest)
  | none => .error .reverted

/-- Take from a balance what its owner allows a spender, and leave the allowance as it is. -/
def pull (l : Ledger) (token owner spender : Address) (amount : Wad) : Except Halt Ledger :=
  match amount.toWord? with
  | .error _ => .error .reverted
  | .ok needed =>
    if l.allowance token owner spender < needed then .error .reverted
    else l.debit token owner amount

def issue (l : Ledger) (wad : Wad) : Ledger := { l with shares := l.shares + wad }

/-- Retire pool shares. That there are fewer than are retired is ruled out, and not merely
refused. -/
def retire (l : Ledger) (wad : Wad) : Except Halt Ledger :=
  match l.shares.sub? wad with
  | some shares => .ok { l with shares }
  | none => .error .impossible

/-- A difference that a call insists on: what is wrong if it would be negative is up to the call. -/
def insist {s : Scale} (a b : Amount s) (halt : Halt) : Except Halt (Amount s) :=
  match a.sub? b with
  | some rest => .ok rest
  | none => .error halt

def join (l : Ledger) (caller : Address) (wad : Wad) : Except Halt Ledger := do
  let l ← l.pull l.tokens.gem caller l.contracts.tub (wad * l.vault.per : Wad)
  return (l.credit l.tokens.skr caller wad).issue wad

def exit (l : Ledger) (caller : Address) (wad : Wad) : Except Halt Ledger := do
  let l ← l.pull l.tokens.skr caller l.contracts.tub wad
  (l.credit l.tokens.gem caller (wad * l.vault.per : Wad)).retire wad

def boom (l : Ledger) (caller : Address) (wad : Wad) : Except Halt Ledger := do
  let spread ← insist (.ofUnits 2) l.vault.gap .impossible
  let proceeds : Wad := wad * (l.vault.tag * spread : Wad)
  let joy ← insist l.vault.joy proceeds .reverted
  let l ← { l with vault := { l.vault with joy } }.pull l.tokens.skr caller l.contracts.tap wad
  (l.credit l.tokens.sai caller proceeds).retire wad

def bust (l : Ledger) (caller : Address) (wad : Wad) : Except Halt Ledger := do
  let cost : Wad := wad * (l.vault.tag * l.vault.gap : Wad)
  let fog ← insist l.vault.fog wad .reverted
  let woe ← insist l.vault.woe cost .reverted
  let paid := { l with vault := { l.vault with fog, woe } }
  let l ← paid.pull l.tokens.sai caller l.contracts.tap cost
  return l.credit l.tokens.skr caller wad

/-- What an order asks for a part of what it pays. -/
def share (order : Order) (quantity : Wad) : Wad := ⟨quantity.raw * order.buy.raw / order.pay.raw⟩

/-- An order after a part of it was taken; nothing is left of it once it pays no more. -/
def settle (orders : Table OrderId Order) (order : Order) (payLeft spend : Wad) :
    Table OrderId Order :=
  if payLeft.isZero then orders.erase order.id
  else orders.insert order.id { order with pay := payLeft, buy := order.buy.monus spend }

def take (l : Ledger) (caller : Address) (id : OrderId) (quantity : Wad) : Except Halt Ledger := do
  if l.blocked.contains id then throw .reverted
  match l.orders.find? id with
  | none => throw .reverted
  | some order =>
    let payLeft ← insist order.pay quantity .reverted
    if order.pay.isZero then throw .impossible
    let spend := share order quantity
    let l ← l.pull order.buyToken caller l.contracts.otc spend
    let l := (l.credit order.buyToken order.owner spend).credit order.payToken caller quantity
    return { l with orders := settle l.orders order payLeft spend }

/-- Do an action. Only an approval depends on its target, which is the token; every other action
knows its contract. -/
def act (l : Ledger) (caller target : Address) : Action → Except Halt Ledger
  | .approve spender amount => .ok (l.approve target caller spender amount)
  | .join wad => l.join caller wad
  | .exit wad => l.exit caller wad
  | .boom wad => l.boom caller wad
  | .bust wad => l.bust caller wad
  | .take id quantity => l.take caller id quantity

/-- Move all that the caller holds of some tokens to the executor. -/
def gather (l : Ledger) (caller executor : Address) : List Address → Except Halt Ledger
  | [] => .ok l
  | token :: tokens => do
    let amount := l.balance token caller
    let l ← l.pull token caller executor amount
    (l.credit token executor amount).gather caller executor tokens

/-- Move all that the executor holds of some tokens to the caller. -/
def release (l : Ledger) (caller executor : Address) : List Address → Except Halt Ledger
  | [] => .ok l
  | token :: tokens => do
    let amount := l.balance token executor
    let l ← l.debit token executor amount
    (l.credit token caller amount).release caller executor tokens

mutual

/-- Make a call in the name of `caller`. A batch gathers, makes its invocations and releases what is
left; its executor must not call itself. -/
def apply (l : Ledger) (caller : Address) : Call → Except Halt Ledger
  | .single target action => l.act caller target action
  | .batch executor tokens invocations =>
    if caller = executor then .error .reverted
    else
      match l.gather caller executor tokens with
      | .error halt => .error halt
      | .ok l =>
        match l.applyAll executor invocations with
        | .error halt => .error halt
        | .ok l => l.release caller executor tokens

/-- Make some calls one after the other, up to the first that fails. -/
def applyAll (l : Ledger) (caller : Address) : List Call → Except Halt Ledger
  | [] => .ok l
  | call :: calls =>
    match l.apply caller call with
    | .error halt => .error halt
    | .ok l => l.applyAll caller calls

end

end Ledger

end Arbitrage
