import Arbitrage.Proofs.Amount.Basic
import Arbitrage.Proofs.Simulation.Balance

/-!
# The deals that calls make

Every call at the contracts but an approval exchanges one token for another. What it exchanges, and
what becomes of the market, depends on the market alone: `deal?` reads it off, and is none where the
market refuses. What the call then does is the same for all: the caller's payment is pulled, passed
on to the maker of an order, and answered by a credit (`perform`). That this describes the calls is
`act_eq_of_deal?`; the only gap between the two is a retirement of more shares than were issued.
-/

namespace Arbitrage

/-- What one call exchanges, and the market that it leaves. Every call that trades is one payment
for one gain. -/
structure Deal where
  paid : Address
  cost : Wad
  /-- The contract that pulls the payment, which is the one that the caller must have approved. -/
  spender : Address
  /-- Who receives the payment, if an account does. -/
  payee : Option Address
  got : Address
  gain : Wad
  vault : Vault
  orders : Table OrderId Order
  shares : Wad

/-- The shares that an action retires. -/
def Action.retired : Action → Wad
  | .exit wad | .boom wad => wad
  | .approve _ _ | .join _ | .bust _ | .take _ _ => .zero

namespace Ledger

def takeDeal? (l : Ledger) (id : OrderId) (quantity : Wad) : Option Deal := do
  let order ← l.orders.find? id
  let payLeft ← order.pay.sub? quantity
  if order.pay.isZero then none
  else
    let spend := share order quantity
    return {
      paid := order.buyToken, cost := spend, spender := l.contracts.otc, payee := order.owner
      got := order.payToken, gain := quantity
      vault := l.vault, orders := settle l.orders order payLeft spend, shares := l.shares }

/-- The deal of an action, unless the market refuses it; an approval is no deal. -/
def deal? (l : Ledger) : Action → Option Deal
  | .approve _ _ => none
  | .join wad => some {
      paid := l.tokens.gem, cost := (wad * l.vault.per : Wad), spender := l.contracts.tub
      payee := none, got := l.tokens.skr, gain := wad
      vault := l.vault, orders := l.orders, shares := l.shares + wad }
  | .exit wad => some {
      paid := l.tokens.skr, cost := wad, spender := l.contracts.tub
      payee := none, got := l.tokens.gem, gain := (wad * l.vault.per : Wad)
      vault := l.vault, orders := l.orders, shares := l.shares.monus wad }
  | .boom wad => do
      let spread ← (Amount.ofUnits 2).sub? l.vault.gap
      let proceeds : Wad := wad * (l.vault.tag * spread : Wad)
      let joy ← l.vault.joy.sub? proceeds
      return {
        paid := l.tokens.skr, cost := wad, spender := l.contracts.tap
        payee := none, got := l.tokens.sai, gain := proceeds
        vault := { l.vault with joy }, orders := l.orders, shares := l.shares.monus wad }
  | .bust wad => do
      let cost : Wad := wad * (l.vault.tag * l.vault.gap : Wad)
      let fog ← l.vault.fog.sub? wad
      let woe ← l.vault.woe.sub? cost
      return {
        paid := l.tokens.sai, cost := cost, spender := l.contracts.tap
        payee := none, got := l.tokens.skr, gain := wad
        vault := { l.vault with fog, woe }, orders := l.orders, shares := l.shares }
  | .take id quantity => if l.blocked.contains id then none else l.takeDeal? id quantity

def pass (l : Ledger) (token : Address) (payee : Option Address) (amount : Wad) : Ledger :=
  match payee with
  | some owner => l.credit token owner amount
  | none => l

/-- The ledger once a caller has paid and received what a deal exchanges. -/
def exchange (l : Ledger) (caller : Address) (d : Deal) : Ledger :=
  { ((l.withdraw d.paid caller d.cost).pass d.paid d.payee d.cost).credit d.got caller d.gain with
    vault := d.vault, orders := d.orders, shares := d.shares }

/-- Carry out a deal in the name of a caller: it pays, the payment is passed on, and it gets what it
has paid for. -/
def perform (l : Ledger) (caller : Address) (d : Deal) : Except Halt Ledger :=
  match l.pull d.paid caller d.spender d.cost with
  | .ok paid =>
    .ok { (paid.pass d.paid d.payee d.cost).credit d.got caller d.gain with
      vault := d.vault, orders := d.orders, shares := d.shares }
  | .error halt => .error halt

/-- A caller can pay for a deal, with what it holds and with what it allows. -/
def Affords (l : Ledger) (caller : Address) (d : Deal) : Prop :=
  l.CanPull d.paid caller d.spender d.cost

variable {l l' : Ledger} {caller target : Address} {d : Deal}

theorem perform_of_affords (can : l.Affords caller d) :
    l.perform caller d = .ok (l.exchange caller d) := by
  rw [perform, pull_of_canPull can]
  rfl

theorem perform_of_not_affords (cannot : ¬ l.Affords caller d) :
    l.perform caller d = .error .reverted := by
  rw [perform, pull_of_not_canPull cannot]

theorem raw_balance_pass (l : Ledger) (token : Address) (payee : Option Address) (amount : Wad)
    (t o : Address) :
    ((l.pass token payee amount).balance t o).raw =
      (l.balance t o).raw + if t = token ∧ payee = some o then amount.raw else 0 := by
  cases payee with
  | none => simp [pass]
  | some owner => simp only [pass, raw_balance_credit, Option.some.injEq, eq_comm]

/-- Who holds what after a deal: the payment has left the caller for its payee, if there is one, and
the caller has received the gain. -/
theorem raw_balance_exchange (can : l.Affords caller d) (t o : Address) :
    ((l.exchange caller d).balance t o).raw +
        (if t = d.paid ∧ o = caller then d.cost.raw else 0) =
      (l.balance t o).raw + (if t = d.paid ∧ d.payee = some o then d.cost.raw else 0) +
        (if t = d.got ∧ o = caller then d.gain.raw else 0) := by
  have taken := raw_balance_withdraw can.2.2 t o
  have passed := raw_balance_pass (l.withdraw d.paid caller d.cost) d.paid d.payee d.cost t o
  have credited := raw_balance_credit
    ((l.withdraw d.paid caller d.cost).pass d.paid d.payee d.cost) d.got caller d.gain t o
  have same : (l.exchange caller d).balance t o =
    (((l.withdraw d.paid caller d.cost).pass d.paid d.payee d.cost).credit
      d.got caller d.gain).balance t o := rfl
  rw [same, credited, passed]
  omega

theorem exchange_eq (l : Ledger) (caller : Address) (d : Deal) :
    l.exchange caller d = { l with
      balances := (l.exchange caller d).balances
      vault := d.vault, orders := d.orders, shares := d.shares } := by
  rw [exchange]
  cases d.payee <;> rfl

@[simp] theorem exchange_allowance : (l.exchange caller d).allowance = l.allowance := by
  rw [exchange_eq]
  rfl

section Inversion

variable {wad : Wad}

theorem deal?_boom_eq_some_iff :
    l.deal? (.boom wad) = some d ↔ ∃ spread joy : Wad,
      spread.raw + l.vault.gap.raw = (Amount.ofUnits 2 : Wad).raw ∧
      joy.raw + (wad * (l.vault.tag * spread : Wad) : Wad).raw = l.vault.joy.raw ∧
      d = {
        paid := l.tokens.skr, cost := wad, spender := l.contracts.tap
        payee := none, got := l.tokens.sai, gain := (wad * (l.vault.tag * spread : Wad) : Wad)
        vault := { l.vault with joy }, orders := l.orders, shares := l.shares.monus wad } := by
  simp only [deal?, Option.bind_eq_bind, Option.bind_eq_some_iff, Option.pure_def,
    Option.some.injEq, Amount.sub?_eq_some_iff, exists_and_left, eq_comm (b := d)]

theorem deal?_bust_eq_some_iff :
    l.deal? (.bust wad) = some d ↔ ∃ fog woe : Wad,
      fog.raw + wad.raw = l.vault.fog.raw ∧
      woe.raw + (wad * (l.vault.tag * l.vault.gap : Wad) : Wad).raw = l.vault.woe.raw ∧
      d = {
        paid := l.tokens.sai, cost := (wad * (l.vault.tag * l.vault.gap : Wad) : Wad)
        spender := l.contracts.tap, payee := none, got := l.tokens.skr, gain := wad
        vault := { l.vault with fog, woe }, orders := l.orders, shares := l.shares } := by
  simp only [deal?, Option.bind_eq_bind, Option.bind_eq_some_iff, Option.pure_def,
    Option.some.injEq, Amount.sub?_eq_some_iff, exists_and_left, eq_comm (b := d)]

theorem takeDeal?_eq_some_iff {id : OrderId} {quantity : Wad} :
    l.takeDeal? id quantity = some d ↔ ∃ order payLeft,
      l.orders.find? id = some order ∧ payLeft.raw + quantity.raw = order.pay.raw ∧
      order.pay.raw ≠ 0 ∧ d = {
        paid := order.buyToken, cost := share order quantity, spender := l.contracts.otc
        payee := order.owner, got := order.payToken, gain := quantity
        vault := l.vault, orders := settle l.orders order payLeft (share order quantity)
        shares := l.shares } := by
  simp only [takeDeal?, Option.bind_eq_bind, Option.bind_eq_some_iff, Option.pure_def,
    Option.ite_none_left_eq_some, Option.some.injEq, Amount.sub?_eq_some_iff, Amount.isZero_iff,
    exists_and_left, eq_comm (b := d)]

theorem deal?_take_eq_some_iff {id : OrderId} {quantity : Wad} :
    l.deal? (.take id quantity) = some d ↔
      l.blocked.contains id = false ∧ l.takeDeal? id quantity = some d := by
  simp only [deal?, Option.ite_none_left_eq_some, Bool.not_eq_true]

/-- A deal leaves the book alone and pays no account, or it settles the order that it takes and pays
its maker. -/
theorem orders_of_deal? {action : Action} (deal : l.deal? action = some d) :
    (d.orders = l.orders ∧ d.payee = none) ∨ ∃ id quantity order payLeft,
      action = .take id quantity ∧ l.orders.find? id = some order ∧
      d.orders = settle l.orders order payLeft (share order quantity) ∧
      d.payee = some order.owner := by
  cases action with
  | approve spender amount => cases deal
  | join wad =>
      cases deal
      exact .inl ⟨rfl, rfl⟩
  | exit wad =>
      cases deal
      exact .inl ⟨rfl, rfl⟩
  | boom wad =>
      obtain ⟨_, _, -, -, rfl⟩ := deal?_boom_eq_some_iff.mp deal
      exact .inl ⟨rfl, rfl⟩
  | bust wad =>
      obtain ⟨_, _, -, -, rfl⟩ := deal?_bust_eq_some_iff.mp deal
      exact .inl ⟨rfl, rfl⟩
  | take id quantity =>
      obtain ⟨-, taken⟩ := deal?_take_eq_some_iff.mp deal
      obtain ⟨order, payLeft, found, -, -, rfl⟩ := takeDeal?_eq_some_iff.mp taken
      exact .inr ⟨id, quantity, order, payLeft, rfl, found, rfl, rfl⟩

end Inversion

/-- A settled book holds what is left of the order taken, and the other orders as they were. -/
theorem find?_settle (orders : Table OrderId Order) (order : Order) (payLeft spend : Wad)
    (id : OrderId) : (settle orders order payLeft spend).find? id =
      if id = order.id then
        if payLeft.isZero then none
        else some { order with pay := payLeft, buy := order.buy.monus spend }
      else orders.find? id := by
  by_cases filled : payLeft.isZero = true <;> simp [settle, filled]

theorem insist_eq_ok_iff {s : Scale} {a b rest : Amount s} {halt : Halt} :
    insist a b halt = .ok rest ↔ rest.raw + b.raw = a.raw := by
  rw [← Amount.sub?_eq_some_iff]
  rw [insist]
  cases a.sub? b <;> simp

/-- A take of an order that is not blocked makes its deal. -/
theorem take_of_deal? {id : OrderId} {quantity : Wad} (free : l.blocked.contains id = false)
    (deal : l.takeDeal? id quantity = some d) : l.take caller id quantity = l.perform caller d := by
  obtain ⟨order, payLeft, found, left, pays, rfl⟩ := takeDeal?_eq_some_iff.mp deal
  have insisted : insist order.pay quantity .reverted = .ok payLeft := insist_eq_ok_iff.mpr left
  have pays : order.pay.isZero = false := by simpa [Amount.isZero] using pays
  simp only [take, free, found, insisted, pays, perform]
  dsimp only [bind, Except.bind]
  cases pulled : l.pull order.buyToken caller l.contracts.otc (share order quantity) with
  | error halt => simp
  | ok paid =>
      obtain ⟨-, rfl⟩ := pull_eq_ok_iff.mp pulled
      rfl

/-- Retiring shares takes them off those issued, of which there must be enough. -/
theorem retire_eq (l : Ledger) (wad : Wad) :
    l.retire wad =
      if wad ≤ l.shares then .ok { l with shares := l.shares.monus wad }
      else .error .impossible := by
  by_cases issued : wad ≤ l.shares
  · have rest : l.shares.sub? wad = some ⟨l.shares.raw - wad.raw⟩ := if_pos issued
    simp only [retire, rest, Amount.monus, Option.getD_some, if_pos issued]
  · have short : l.shares.sub? wad = none := if_neg issued
    simp only [retire, short, if_neg issued]

/-- A call does what its deal says, unless it would retire more shares than were issued. -/
theorem act_eq_of_deal? {action : Action} (deal : l.deal? action = some d) :
    l.act caller target action = (l.perform caller d).bind fun l' =>
      if action.retired ≤ l.shares then .ok l' else .error .impossible := by
  have idle (nothing : action.retired = .zero) : action.retired ≤ l.shares := by
    rw [nothing]
    exact Nat.zero_le _
  cases action with
  | approve spender amount => cases deal
  | join wad =>
      cases deal
      simp only [act, join, perform]
      cases pulled : l.pull l.tokens.gem caller l.contracts.tub (wad * l.vault.per : Wad) with
      | error halt => rfl
      | ok paid =>
          obtain ⟨-, rfl⟩ := pull_eq_ok_iff.mp pulled
          dsimp only [Except.bind]
          rw [if_pos (idle rfl)]
          rfl
  | exit wad =>
      cases deal
      simp only [act, exit, perform]
      cases pulled : l.pull l.tokens.skr caller l.contracts.tub wad with
      | error halt => rfl
      | ok paid =>
          obtain ⟨can, rfl⟩ := pull_eq_ok_iff.mp pulled
          exact retire_eq _ _
  | boom wad =>
      obtain ⟨spread, joy, spread_eq, joy_eq, rfl⟩ := deal?_boom_eq_some_iff.mp deal
      have insisted : insist (.ofUnits 2) l.vault.gap .impossible = .ok spread :=
        insist_eq_ok_iff.mpr spread_eq
      have enough : insist l.vault.joy (wad * (l.vault.tag * spread : Wad) : Wad) .reverted = .ok joy :=
        insist_eq_ok_iff.mpr joy_eq
      have pulled := pull_with_vault l { l.vault with joy } l.tokens.skr caller l.contracts.tap wad
      simp only [act, boom, insisted, perform]
      dsimp only [bind, Except.bind]
      rw [enough]
      dsimp only
      rw [pulled]
      cases taken : l.pull l.tokens.skr caller l.contracts.tap wad with
      | error halt => rfl
      | ok paid =>
          obtain ⟨can, rfl⟩ := pull_eq_ok_iff.mp taken
          exact retire_eq _ _
  | bust wad =>
      obtain ⟨fog, woe, fog_eq, woe_eq, rfl⟩ := deal?_bust_eq_some_iff.mp deal
      have sold : insist l.vault.fog wad .reverted = .ok fog := insist_eq_ok_iff.mpr fog_eq
      have covered : insist l.vault.woe (wad * (l.vault.tag * l.vault.gap : Wad) : Wad) .reverted =
        .ok woe := insist_eq_ok_iff.mpr woe_eq
      have pulled := pull_with_vault l { l.vault with fog, woe } l.tokens.sai caller l.contracts.tap
        (wad * (l.vault.tag * l.vault.gap : Wad) : Wad)
      simp only [act, bust, sold, perform]
      dsimp only [bind, Except.bind]
      rw [covered]
      dsimp only
      rw [pulled]
      cases taken : l.pull l.tokens.sai caller l.contracts.tap
          (wad * (l.vault.tag * l.vault.gap : Wad) : Wad) with
      | error halt => rfl
      | ok paid =>
          obtain ⟨-, rfl⟩ := pull_eq_ok_iff.mp taken
          dsimp only [Except.bind]
          rw [if_pos (idle rfl)]
          rfl
  | take id quantity =>
      obtain ⟨free, taken⟩ := deal?_take_eq_some_iff.mp deal
      rw [act, take_of_deal? free taken]
      cases l.perform caller d with
      | error halt => rfl
      | ok l' =>
          dsimp only [Except.bind]
          rw [if_pos (idle rfl)]

/-- Whoever can pay for a deal holds the shares that it retires. -/
theorem retired_le_of_affords {action : Action} (deal : l.deal? action = some d)
    (can : l.Affords caller d) : action.retired ≤ l.balance l.tokens.skr caller := by
  cases action with
  | exit wad =>
      cases deal
      exact can.2.2
  | boom wad =>
      obtain ⟨_, _, -, -, rfl⟩ := deal?_boom_eq_some_iff.mp deal
      exact can.2.2
  | approve | join | bust | take => exact Nat.zero_le _

/-- A call does what its deal says, as long as no more shares are held than were issued. -/
theorem act_of_deal? {action : Action} (issued : l.balance l.tokens.skr caller ≤ l.shares)
    (deal : l.deal? action = some d) : l.act caller target action = l.perform caller d := by
  rw [act_eq_of_deal? deal]
  by_cases can : l.Affords caller d
  · rw [perform_of_affords can]
    exact if_pos (Nat.le_trans (retired_le_of_affords deal can) issued)
  · rw [perform_of_not_affords can]
    rfl

end Ledger

end Arbitrage
