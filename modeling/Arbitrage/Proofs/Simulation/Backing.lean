import Arbitrage.Proofs.Market.Token
import Arbitrage.Proofs.Simulation.Deal
import Arbitrage.Proofs.Simulation.Table

/-!
# What stands behind the issued shares

The pool shares that can be pointed at are those in circulation, those that the vault has to sell,
and those that orders hold in escrow. A ledger is backed if no fewer were issued than can be pointed
at. Every deal changes both numbers by the same amount (`accounted_exchange`), and a mere movement
between accounts changes neither, so a backed ledger stays backed; and no caller of a backed ledger
can retire more shares than were issued.
-/

namespace Arbitrage

def Filed (orders : Table OrderId Order) : Prop :=
  ∀ id order, orders.find? id = some order → order.id = id

/-- What orders hold of a token that they pay. Whatever stands behind an order is on no account
while it rests. -/
def escrow (orders : Table OrderId Order) (token : Address) : Nat :=
  orders.total fun _ order => if order.payToken = token then order.pay.raw else 0

namespace Ledger

def circulating (l : Ledger) : Nat :=
  l.balances.total fun key amount => if key.1 = l.tokens.skr then amount.raw else 0

/-- The shares that can be pointed at: those on accounts, those behind orders, and those that the
vault sells. -/
def accounted (l : Ledger) : Nat := l.circulating + l.vault.fog.raw + escrow l.orders l.tokens.skr

/-- No fewer shares were issued than can be pointed at, so that retiring shares that somebody holds
never fails. -/
def Backed (l : Ledger) : Prop := l.accounted ≤ l.shares.raw

variable {l : Ledger} {token owner caller : Address} {amount : Wad} {d : Deal}

theorem circulating_setBalance (l : Ledger) (token owner : Address) (amount : Wad) :
    (l.setBalance token owner amount).circulating +
        (if token = l.tokens.skr then (l.balance token owner).raw else 0) =
      l.circulating + if token = l.tokens.skr then amount.raw else 0 := by
  have changed := l.balances.total_insert
    (fun key amount => if key.1 = l.tokens.skr then amount.raw else 0) (token, owner) amount
  have before : l.balances.part (fun key amount => if key.1 = l.tokens.skr then amount.raw else 0)
      (token, owner) = if token = l.tokens.skr then (l.balance token owner).raw else 0 := by
    rw [Table.part, balance]
    cases l.balances.find? (token, owner) <;> simp
  rw [before] at changed
  exact changed

theorem circulating_credit (l : Ledger) (token owner : Address) (amount : Wad) :
    (l.credit token owner amount).circulating =
      l.circulating + if token = l.tokens.skr then amount.raw else 0 := by
  have changed := l.circulating_setBalance token owner (l.balance token owner + amount)
  rw [credit]
  by_cases counted : token = l.tokens.skr
  · simp only [if_pos counted, Amount.raw_add] at changed ⊢
    omega
  · simp only [if_neg counted] at changed ⊢
    omega

theorem circulating_withdraw (enough : amount ≤ l.balance token owner) :
    (l.withdraw token owner amount).circulating +
      (if token = l.tokens.skr then amount.raw else 0) = l.circulating := by
  have changed := l.circulating_setBalance token owner ⟨(l.balance token owner).raw - amount.raw⟩
  have enough : amount.raw ≤ (l.balance token owner).raw := enough
  rw [withdraw]
  by_cases counted : token = l.tokens.skr
  · simp only [if_pos counted] at changed ⊢
    omega
  · simp only [if_neg counted] at changed ⊢
    omega

theorem circulating_pass (l : Ledger) (token : Address) (payee : Option Address) (amount : Wad) :
    (l.pass token payee amount).circulating =
      l.circulating + if token = l.tokens.skr ∧ payee.isSome then amount.raw else 0 := by
  cases payee with
  | none => simp [pass]
  | some owner => simp [pass, circulating_credit]

@[simp] theorem pass_tokens (l : Ledger) (token : Address) (payee : Option Address) (amount : Wad) :
    (l.pass token payee amount).tokens = l.tokens := by
  cases payee <;> rfl

theorem circulating_exchange (can : l.Affords caller d) :
    (l.exchange caller d).circulating + (if d.paid = l.tokens.skr then d.cost.raw else 0) =
      l.circulating + (if d.paid = l.tokens.skr ∧ d.payee.isSome then d.cost.raw else 0) +
        if d.got = l.tokens.skr then d.gain.raw else 0 := by
  have taken := circulating_withdraw can.2.2
  have passed := circulating_pass (l.withdraw d.paid caller d.cost) d.paid d.payee d.cost
  have credited := circulating_credit
    ((l.withdraw d.paid caller d.cost).pass d.paid d.payee d.cost) d.got caller d.gain
  have same : (l.exchange caller d).circulating =
    (((l.withdraw d.paid caller d.cost).pass d.paid d.payee d.cost).credit
      d.got caller d.gain).circulating := rfl
  have tokens : (l.withdraw d.paid caller d.cost).tokens = l.tokens := rfl
  rw [same, credited, passed, pass_tokens, tokens]
  omega

theorem balance_le_circulating (l : Ledger) (owner : Address) :
    (l.balance l.tokens.skr owner).raw ≤ l.circulating := by
  have part := l.balances.part_le_total
    (fun key amount => if key.1 = l.tokens.skr then amount.raw else 0) (l.tokens.skr, owner)
  unfold Table.part at part
  rw [balance, circulating]
  cases found : l.balances.find? (l.tokens.skr, owner) with
  | none => exact Nat.zero_le _
  | some held => simpa [found] using part

theorem Backed.balance_le (backed : l.Backed) (owner : Address) :
    l.balance l.tokens.skr owner ≤ l.shares := by
  have held := l.balance_le_circulating owner
  unfold Backed accounted at backed
  rw [Amount.le_def]
  omega

/-- A take leaves in escrow what it did not hand out. -/
theorem escrow_settle {orders : Table OrderId Order} {order : Order} {quantity payLeft : Wad}
    (spend : Wad) (filed : orders.find? order.id = some order)
    (left : payLeft.raw + quantity.raw = order.pay.raw) (token : Address) :
    escrow (settle orders order payLeft spend) token +
      (if order.payToken = token then quantity.raw else 0) = escrow orders token := by
  have part : orders.part (fun _ order => if order.payToken = token then order.pay.raw else 0)
    order.id = if order.payToken = token then order.pay.raw else 0 := Table.part_of_find? filed
  simp only [escrow, settle]
  by_cases filled : payLeft.isZero = true
  · have none_left : payLeft.raw = 0 := by simpa [Amount.isZero] using filled
    have erased := orders.total_erase
      (fun _ order => if order.payToken = token then order.pay.raw else 0) order.id
    rw [if_pos filled]
    rw [part] at erased
    by_cases counted : order.payToken = token
    · simp only [if_pos counted] at erased ⊢
      omega
    · simp only [if_neg counted] at erased ⊢
      omega
  · have kept := orders.total_insert
      (fun _ order => if order.payToken = token then order.pay.raw else 0) order.id
      { order with pay := payLeft, buy := order.buy.monus spend }
    rw [if_neg filled]
    rw [part] at kept
    by_cases counted : order.payToken = token
    · simp only [if_pos counted] at kept ⊢
      omega
    · simp only [if_neg counted] at kept ⊢
      omega

theorem filed_settle {orders : Table OrderId Order} (filed : Filed orders) (order : Order)
    (payLeft spend : Wad) : Filed (settle orders order payLeft spend) := by
  intro id found listed
  rw [find?_settle] at listed
  split at listed
  · next same =>
      split at listed
      · cases listed
      · cases listed
        exact same.symm
  · exact filed id found listed

theorem filed_of_deal? {action : Action} (filed : Filed l.orders)
    (deal : l.deal? action = some d) : Filed d.orders := by
  rcases orders_of_deal? deal with ⟨same, -⟩ | ⟨_, _, order, payLeft, -, -, settled, -⟩
  · rw [same]
    exact filed
  · rw [settled]
    exact filed_settle filed order payLeft _

/-- A deal changes the shares issued and the shares that can be pointed at by the same amount. -/
theorem accounted_exchange {action : Action} (distinct : l.tokens.Distinct) (filed : Filed l.orders)
    (issued : action.retired ≤ l.shares) (deal : l.deal? action = some d)
    (can : l.Affords caller d) :
    (l.exchange caller d).accounted + l.shares.raw = l.accounted + d.shares.raw := by
  have circulating := circulating_exchange can
  have accounted : (l.exchange caller d).accounted =
    (l.exchange caller d).circulating + d.vault.fog.raw + escrow d.orders l.tokens.skr := by
      rw [exchange_eq]
      rfl
  rw [accounted, Ledger.accounted]
  have gem_ne_skr := distinct.gem_ne_skr
  have sai_ne_skr := distinct.skr_ne_sai.symm
  cases action with
  | approve spender amount => cases deal
  | join wad =>
      cases deal
      simp only [gem_ne_skr, false_and, if_false, if_true, Amount.raw_add] at circulating ⊢
      omega
  | exit wad =>
      cases deal
      have issued : wad.raw ≤ l.shares.raw := issued
      simp only [gem_ne_skr, Option.isSome_none, Bool.false_eq_true, and_false, if_false, if_true,
        Amount.raw_monus] at circulating ⊢
      omega
  | boom wad =>
      obtain ⟨spread, joy, -, -, rfl⟩ := deal?_boom_eq_some_iff.mp deal
      have issued : wad.raw ≤ l.shares.raw := issued
      simp only [sai_ne_skr, Option.isSome_none, Bool.false_eq_true, and_false, if_false, if_true,
        Amount.raw_monus] at circulating ⊢
      omega
  | bust wad =>
      obtain ⟨fog, woe, sold, -, rfl⟩ := deal?_bust_eq_some_iff.mp deal
      simp only [sai_ne_skr, false_and, if_false, if_true] at circulating ⊢
      omega
  | take id quantity =>
      obtain ⟨-, taken⟩ := deal?_take_eq_some_iff.mp deal
      obtain ⟨order, payLeft, found, left, -, rfl⟩ := takeDeal?_eq_some_iff.mp taken
      obtain rfl := filed id order found
      have kept := escrow_settle (share order quantity) found left l.tokens.skr
      simp only [Option.isSome_some, and_true] at circulating ⊢
      omega

/-- What the contracts keep true of a ledger, and what a plan relies on: three tokens, orders that
are found by number, and shares enough to retire. -/
structure Sound (l : Ledger) : Prop where
  distinct : l.tokens.Distinct
  filed : Filed l.orders
  backed : l.Backed

theorem Sound.exchange {action : Action} (sound : l.Sound) (deal : l.deal? action = some d)
    (can : l.Affords caller d) : (l.exchange caller d).Sound := by
  have issued := Nat.le_trans (retired_le_of_affords deal can) (sound.backed.balance_le caller)
  have kept := accounted_exchange sound.distinct sound.filed issued deal can
  have backed := sound.backed
  refine ⟨?_, filed_of_deal? sound.filed deal, ?_⟩
  · rw [exchange_eq]
    exact sound.distinct
  · have shares : (l.exchange caller d).shares = d.shares := rfl
    simp only [Backed] at backed ⊢
    rw [shares]
    omega

end Ledger

end Arbitrage
