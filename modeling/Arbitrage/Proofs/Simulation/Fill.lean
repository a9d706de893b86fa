import Arbitrage.Proofs.Market.Snapshot
import Arbitrage.Proofs.Simulation.Conservation

/-!
# Orders that are taken in parts

Each take of an order hands out a quantity and asks for its share, rounded down, of what the order
still asks. The roundings add up over many takes, but what was rounded off is asked of the takers
that follow: what is left of an order never pays more for what it asks than the order did at first
(`Order.noBetter_of_take`), and the last take asks for all of the rest (`Order.FilledBy.take_all`).
So an order stays live as long as it pays anything, and when it is gone its takers have spent exactly
what it asked (`Ledger.filledBy_fills`).

`Ledger.Fills` follows one order through whatever happens to the ledger around it. Whatever work is
done on a chain amounts to that for each of its orders (`SimulatedChain.exists_fills_run`).
-/

namespace Arbitrage

/-- A part of an order that was taken, with both sides of the exchange. -/
structure Fill where
  taker : Address
  quantity : Wad
  spent : Wad

namespace Fill

def handed (fills : List Fill) : Nat := (fills.map (·.quantity.raw)).sum

def paid (fills : List Fill) : Nat := (fills.map (·.spent.raw)).sum

@[simp] theorem handed_nil : handed [] = 0 := rfl

@[simp] theorem paid_nil : paid [] = 0 := rfl

@[simp] theorem handed_cons (fill : Fill) (fills : List Fill) :
    handed (fill :: fills) = fill.quantity.raw + handed fills := rfl

@[simp] theorem paid_cons (fill : Fill) (fills : List Fill) :
    paid (fill :: fills) = fill.spent.raw + paid fills := rfl

/-- A fill of an order moves what was handed out to the taker and what was spent from the taker to
the owner, and nothing else. -/
def Moves (fill : Fill) (order : Order) (l m : Ledger) : Prop :=
  ∀ token owner,
    (m.balance token owner).raw +
        (if token = order.buyToken ∧ owner = fill.taker then fill.spent.raw else 0) =
      (l.balance token owner).raw +
        (if token = order.buyToken ∧ order.owner = owner then fill.spent.raw else 0) +
        (if token = order.payToken ∧ owner = fill.taker then fill.quantity.raw else 0)

end Fill

namespace Order

open Ledger (share settle)

/-- An order that pays at most as much for what it asks as another. -/
def NoBetter (rest order : Order) : Prop :=
  rest.pay.raw * order.buy.raw ≤ order.pay.raw * rest.buy.raw

/-- An order of which some fills have left a rest, or nothing. -/
structure FilledBy (order : Order) (fills : List Fill) (left : Option Order) : Prop where
  pay_eq : Fill.handed fills + left.elim 0 (·.pay.raw) = order.pay.raw
  buy_eq : Fill.paid fills + left.elim 0 (·.buy.raw) = order.buy.raw
  /-- Only the amounts of the rest are others. -/
  terms : ∀ rest, left = some rest → rest = { order with pay := rest.pay, buy := rest.buy }
  live : ∀ rest, left = some rest → rest.isLive = true
  ratio : ∀ rest, left = some rest → rest.NoBetter order

variable {order rest rest' : Order} {fills : List Fill} {left : Option Order}
  {quantity payLeft : Wad}

theorem NoBetter.refl (order : Order) : order.NoBetter order := Nat.le_refl _

theorem NoBetter.trans (first : rest'.NoBetter rest) (second : rest.NoBetter order)
    (pays : rest.pay.raw ≠ 0) : rest'.NoBetter order := by
  refine Nat.le_of_mul_le_mul_left ?_ (Nat.pos_of_ne_zero pays)
  calc rest.pay.raw * (rest'.pay.raw * order.buy.raw)
      = rest'.pay.raw * (rest.pay.raw * order.buy.raw) := Nat.mul_left_comm ..
    _ ≤ rest'.pay.raw * (order.pay.raw * rest.buy.raw) := Nat.mul_le_mul_left _ second
    _ = order.pay.raw * (rest'.pay.raw * rest.buy.raw) := Nat.mul_left_comm ..
    _ ≤ order.pay.raw * (rest.pay.raw * rest'.buy.raw) := Nat.mul_le_mul_left _ first
    _ = rest.pay.raw * (order.pay.raw * rest'.buy.raw) := Nat.mul_left_comm ..

theorem share_le (within : quantity ≤ order.pay) : share order quantity ≤ order.buy :=
  Nat.div_le_of_le_mul (Nat.mul_le_mul_right _ within)

/-- The share of all that an order pays is all that it asks. -/
theorem share_pay (pays : order.pay.raw ≠ 0) : share order order.pay = order.buy :=
  Amount.ext (Nat.mul_div_cancel_left _ (Nat.pos_of_ne_zero pays))

/-- The share is rounded down, so what is left asks for what was rounded off. -/
theorem noBetter_of_take (less : payLeft.raw + quantity.raw = order.pay.raw) :
    { order with pay := payLeft, buy := order.buy.monus (share order quantity) }.NoBetter order := by
  have rounded : order.pay.raw * (share order quantity).raw ≤ quantity.raw * order.buy.raw :=
    Nat.mul_div_le _ _
  have whole : payLeft.raw * order.buy.raw + quantity.raw * order.buy.raw =
      order.pay.raw * order.buy.raw := by
    rw [← Nat.add_mul, less]
  simp only [NoBetter, Amount.raw_monus, Nat.mul_sub]
  omega

/-- Whatever still pays something, and is no better than a live order, is live. -/
theorem NoBetter.isLive (noBetter : rest.NoBetter order) (live : order.isLive = true)
    (pays : rest.pay.raw ≠ 0) : rest.isLive = true := by
  refine Order.isLive_iff.mpr ⟨pays, fun asks => ?_⟩
  rw [NoBetter, asks, Nat.mul_zero] at noBetter
  exact Nat.mul_ne_zero pays (Order.isLive_iff.mp live).2 (Nat.le_zero.mp noBetter)

namespace FilledBy

theorem start (live : order.isLive = true) : order.FilledBy [] (some order) where
  pay_eq := Nat.zero_add _
  buy_eq := Nat.zero_add _
  terms := by
    rintro _ ⟨⟩
    rfl
  live := by
    rintro _ ⟨⟩
    exact live
  ratio := by
    rintro _ ⟨⟩
    exact .refl _

/-- The last take hands out all that is left, for all that is still asked. -/
theorem take_all (filled : order.FilledBy fills (some rest)) (taker : Address) :
    order.FilledBy (⟨taker, rest.pay, rest.buy⟩ :: fills) none := by
  have handed : Fill.handed fills + rest.pay.raw = order.pay.raw := filled.pay_eq
  have paid : Fill.paid fills + rest.buy.raw = order.buy.raw := filled.buy_eq
  refine ⟨?_, ?_, nofun, nofun, nofun⟩
  · rw [Fill.handed_cons, Option.elim_none]
    dsimp only
    omega
  · rw [Fill.paid_cons, Option.elim_none]
    dsimp only
    omega

theorem take_part (filled : order.FilledBy fills (some rest)) (taker : Address)
    (less : payLeft.raw + quantity.raw = rest.pay.raw) (more : payLeft.raw ≠ 0) :
    order.FilledBy (⟨taker, quantity, share rest quantity⟩ :: fills)
      (some { rest with pay := payLeft, buy := rest.buy.monus (share rest quantity) }) := by
  have handed : Fill.handed fills + rest.pay.raw = order.pay.raw := filled.pay_eq
  have paid : Fill.paid fills + rest.buy.raw = order.buy.raw := filled.buy_eq
  have live := filled.live rest rfl
  have within : (share rest quantity).raw ≤ rest.buy.raw := share_le (Amount.le_def.mpr (by omega))
  have worse := noBetter_of_take less
  refine ⟨?_, ?_, ?_, ?_, ?_⟩
  · rw [Fill.handed_cons, Option.elim_some]
    dsimp only
    omega
  · rw [Fill.paid_cons, Option.elim_some, Amount.raw_monus]
    dsimp only
    omega
  · rintro _ ⟨⟩
    rw [filled.terms rest rfl]
  · rintro _ ⟨⟩
    exact worse.isLive live more
  · rintro _ ⟨⟩
    exact worse.trans (filled.ratio rest rfl) (Order.isLive_iff.mp live).1

/-- One more take leaves the order as the book then has it. -/
theorem take (filled : order.FilledBy fills (some rest)) (taker : Address)
    (less : payLeft.raw + quantity.raw = rest.pay.raw) :
    order.FilledBy (⟨taker, quantity, share rest quantity⟩ :: fills)
      (if payLeft.isZero then none
        else some { rest with pay := payLeft, buy := rest.buy.monus (share rest quantity) }) := by
  by_cases last : payLeft.isZero = true
  · have all : quantity = rest.pay := by
      rw [Amount.isZero_iff] at last
      exact Amount.ext (by omega)
    rw [if_pos last, all, share_pay (Order.isLive_iff.mp (filled.live rest rfl)).1]
    exact filled.take_all taker
  · rw [if_neg last]
    exact filled.take_part taker less (mt Amount.isZero_iff.mpr last)

/-- An order is gone exactly if all that it paid was handed out. -/
theorem eq_none_iff (filled : order.FilledBy fills left) :
    left = none ↔ Fill.handed fills = order.pay.raw := by
  have handed := filled.pay_eq
  cases left with
  | none => simpa using handed
  | some rest =>
      have pays := (Order.isLive_iff.mp (filled.live rest rfl)).1
      rw [Option.elim_some] at handed
      exact iff_of_false nofun (by omega)

theorem paid_of_none (filled : order.FilledBy fills none) : Fill.paid fills = order.buy.raw :=
  filled.buy_eq

end FilledBy

end Order

namespace Ledger

/-- What is taken of an order on the way from one ledger to another, the last fill first. -/
inductive Fills (id : OrderId) (l : Ledger) : List Fill → Ledger → Prop
  | start : Fills id l [] l
  | take {fills m m' rest} {taker target : Address} {quantity : Wad} (before : Fills id l fills m)
      (listed : m.orders.find? id = some rest)
      (taken : m.act taker target (.take id quantity) = .ok m') :
      Fills id l (⟨taker, quantity, share rest quantity⟩ :: fills) m'
  /-- A take that fails leaves no trace. -/
  | undone {fills m} {taker target : Address} {quantity : Wad} (before : Fills id l fills m)
      (failed : (m.act taker target (.take id quantity)).isOk = false) : Fills id l fills m
  /-- Whatever else happens leaves the order alone. -/
  | elsewhere {fills m m'} (before : Fills id l fills m)
      (same : m'.orders.find? id = m.orders.find? id) : Fills id l fills m'

variable {l m m' : Ledger} {id : OrderId} {fills later : List Fill} {order rest : Order}
  {caller taker target : Address} {quantity : Wad}

theorem Fills.trans (first : Fills id l fills m) (second : Fills id m later m') :
    Fills id l (later ++ fills) m' := by
  induction second with
  | start => exact first
  | take before listed taken ih => exact ih.take listed taken
  | undone before failed ih => exact ih
  | elsewhere before same ih => exact ih.elsewhere same

/-- An action that is made, but for an approval, leaves the orders of its deal. -/
theorem exists_deal?_of_act {action : Action} (made : l.act caller target action = .ok m)
    (deals : ∀ spender amount, action ≠ .approve spender amount) :
    ∃ d, l.deal? action = some d ∧ m.orders = d.orders := by
  cases deal : l.deal? action with
  | none =>
      obtain ⟨halt, refused, -⟩ := act_of_refused caller target deal deals
      rw [refused] at made
      cases made
  | some d =>
      refine ⟨d, rfl, ?_⟩
      rw [act_eq_of_deal? deal] at made
      by_cases can : l.Affords caller d
      · rw [perform_of_affords can] at made
        dsimp only [Except.bind] at made
        split at made
        · cases made
          rfl
        · cases made
      · rw [perform_of_not_affords can] at made
        cases made

/-- What is listed of an order after a take of it. -/
theorem find?_act_take (listed : m.orders.find? id = some rest) (filed : rest.id = id)
    (taken : m.act taker target (.take id quantity) = .ok m') :
    ∃ payLeft : Wad, payLeft.raw + quantity.raw = rest.pay.raw ∧
      m'.orders.find? id =
        if payLeft.isZero then none
        else some { rest with pay := payLeft, buy := rest.buy.monus (share rest quantity) } := by
  obtain ⟨d, deal, left⟩ := exists_deal?_of_act taken (fun _ _ => nofun)
  obtain ⟨-, deal⟩ := deal?_take_eq_some_iff.mp deal
  obtain ⟨found, payLeft, listed', less, -, rfl⟩ := takeDeal?_eq_some_iff.mp deal
  obtain rfl : rest = found := Option.some.inj (listed.symm.trans listed')
  refine ⟨payLeft, less, ?_⟩
  rw [left, find?_settle, if_pos filed.symm]

/-- By induction on what happens: every take starts from what the ones before it have left. -/
theorem Fills.filledBy (placed : l.orders.find? order.id = some order) (live : order.isLive = true)
    (taken : l.Fills order.id fills m) : order.FilledBy fills (m.orders.find? order.id) := by
  induction taken with
  | start =>
      rw [placed]
      exact .start live
  | take before listed taken ih =>
      rw [listed] at ih
      have filed := congrArg Order.id (ih.terms _ rfl)
      obtain ⟨payLeft, less, found⟩ := find?_act_take listed filed taken
      rw [found]
      exact ih.take _ less
  | undone before failed ih => exact ih
  | elsewhere before same ih =>
      rw [same]
      exact ih

/-- A take of an order that pays something is undone, or it moves what it hands out and asks for,
which the order still has. -/
theorem act_take_cases (taker target : Address) (quantity : Wad)
    (pays : ∀ rest, m.orders.find? id = some rest → rest.pay.raw ≠ 0) :
    m.act taker target (.take id quantity) = .error .reverted ∨
      ∃ rest m', m.orders.find? id = some rest ∧
        m.act taker target (.take id quantity) = .ok m' ∧
        quantity ≤ rest.pay ∧ share rest quantity ≤ rest.buy ∧
        Fill.Moves ⟨taker, quantity, share rest quantity⟩ rest m m' := by
  cases deal : m.deal? (.take id quantity) with
  | none =>
      obtain ⟨halt, refused, reverts⟩ := take_of_refused taker deal
      rw [act, refused, reverts pays]
      exact .inl rfl
  | some d =>
      obtain ⟨free, taken⟩ := deal?_take_eq_some_iff.mp deal
      rw [act, take_of_deal? free taken]
      by_cases can : m.Affords taker d
      · obtain ⟨rest, payLeft, listed, less, -, rfl⟩ := takeDeal?_eq_some_iff.mp taken
        have within : quantity ≤ rest.pay := Amount.le_def.mpr (by omega)
        refine .inr ⟨rest, _, listed, perform_of_affords can, within, Order.share_le within, ?_⟩
        intro token owner
        have moved := raw_balance_exchange can token owner
        simp only [Option.some.injEq] at moved
        exact moved
      · exact .inl (perform_of_not_affords can)

theorem exists_fills_act {action : Action} (filed : Filed l.orders) (id : OrderId)
    (made : l.act caller target action = .ok m) : ∃ fills, l.Fills id fills m := by
  by_cases approval : ∃ spender amount, action = .approve spender amount
  · obtain ⟨spender, amount, rfl⟩ := approval
    cases made
    exact ⟨[], .elsewhere .start rfl⟩
  obtain ⟨d, deal, left⟩ := exists_deal?_of_act made
    fun spender amount same => approval ⟨spender, amount, same⟩
  rcases orders_of_deal? deal with ⟨same, -⟩ | ⟨id', _, rest, payLeft, rfl, listed, settled, -⟩
  · exact ⟨[], .elsewhere .start (by rw [left, same])⟩
  · by_cases other : id = id'
    · subst other
      exact ⟨_, .take .start listed made⟩
    · have number : id ≠ rest.id := by rwa [filed id' rest listed]
      exact ⟨[], .elsewhere .start (by rw [left, settled, find?_settle, if_neg number])⟩

theorem orders_of_gather {executor : Address} {tokens : List Address}
    (gathered : l.gather caller executor tokens = .ok m) : m.orders = l.orders := by
  induction tokens generalizing l with
  | nil =>
      cases gathered
      rfl
  | cons token tokens ih =>
      obtain ⟨paid, pulled, gathered⟩ := exists_of_bind_eq_ok gathered
      obtain ⟨-, rfl⟩ := pull_eq_ok_iff.mp pulled
      rw [ih gathered]
      rfl

mutual

/-- One call, with all the calls in it, is some takes of the order, or none. -/
theorem exists_fills_apply {l m : Ledger} {caller : Address} {call : Call} (ordered : l.Ordered)
    (id : OrderId) (made : l.apply caller call = .ok m) : ∃ fills, l.Fills id fills m := by
  cases call with
  | single target action =>
      rw [apply] at made
      exact exists_fills_act ordered.filed id made
  | batch executor tokens invocations =>
      by_cases apart : caller = executor
      · rw [apply, if_pos apart] at made
        cases made
      rw [apply_batch_eq apart] at made
      cases inside : (l.gather caller executor tokens).bind (·.applyAll executor invocations) with
      | error halt =>
          rw [inside] at made
          cases made
      | ok after =>
          rw [inside] at made
          cases made
          obtain ⟨gathered, out, done⟩ := exists_of_bind_eq_ok inside
          -- The ways out and back only move balances; the takes are all among the invocations.
          have kept := (l.keeps_gather caller executor tokens).conserves gathered out
          obtain ⟨fills, taken⟩ := exists_fills_applyAll (kept.ordered ordered) id done
          have same : gathered.orders.find? id = l.orders.find? id := by
            rw [orders_of_gather out]
          have swept : (after.sweep executor caller tokens).orders.find? id =
              after.orders.find? id := by
            rw [sweep_eq]
          exact ⟨_, .elsewhere (.trans (.elsewhere .start same) taken) swept⟩

theorem exists_fills_applyAll {l m : Ledger} {caller : Address} {calls : List Call}
    (ordered : l.Ordered) (id : OrderId) (made : l.applyAll caller calls = .ok m) :
    ∃ fills, l.Fills id fills m := by
  cases calls with
  | nil =>
      rw [applyAll] at made
      cases made
      exact ⟨[], .start⟩
  | cons call calls =>
      rw [applyAll_cons] at made
      obtain ⟨after, first, made⟩ := exists_of_bind_eq_ok made
      have kept := (keeps_apply ordered caller call).conserves after first
      obtain ⟨fills, taken⟩ := exists_fills_apply ordered id first
      obtain ⟨later, taken'⟩ := exists_fills_applyAll (kept.ordered ordered) id made
      exact ⟨_, taken.trans taken'⟩

end

/-- However an order is taken, by whomever and in whatever parts, and whatever else happens in
between: what was handed out and what is left to pay make what it paid at first, and likewise for
what was paid for it and what it still asks. It stays live, at no better terms than at first, until
all that it paid was handed out; then it is gone, and what was paid for it is what it asked. A take
that is not undone hands out its quantity and asks for no more than is still asked, and any call,
with all the calls in it, comes to some more takes or to none. -/
theorem filledBy_fills (placed : l.orders.find? order.id = some order) (live : order.isLive = true)
    (taken : l.Fills order.id fills m) :
    order.FilledBy fills (m.orders.find? order.id) ∧
      (m.orders.find? order.id = none ↔ Fill.handed fills = order.pay.raw) ∧
      (m.orders.find? order.id = none → Fill.paid fills = order.buy.raw) ∧
      (∀ taker target quantity,
        m.act taker target (.take order.id quantity) = .error .reverted ∨
          ∃ rest m', m.orders.find? order.id = some rest ∧
            m.act taker target (.take order.id quantity) = .ok m' ∧
            quantity ≤ rest.pay ∧ share rest quantity ≤ rest.buy ∧
            Fill.Moves ⟨taker, quantity, share rest quantity⟩ order m m') ∧
      (m.Ordered → ∀ caller call m', m.apply caller call = .ok m' →
        ∃ later, l.Fills order.id (later ++ fills) m') := by
  have filled := taken.filledBy placed live
  refine ⟨filled, filled.eq_none_iff, ?_, ?_, ?_⟩
  · intro gone
    rw [gone] at filled
    exact filled.paid_of_none
  · intro taker target quantity
    have pays (rest : Order) (listed : m.orders.find? order.id = some rest) :
        rest.pay.raw ≠ 0 := (Order.isLive_iff.mp (filled.live rest listed)).1
    refine (act_take_cases taker target quantity pays).imp_right ?_
    rintro ⟨rest, m', listed, made, within, asked, moves⟩
    rw [filled.terms rest listed] at moves
    exact ⟨rest, m', listed, made, within, asked, moves⟩
  · intro ordered caller call m' made
    obtain ⟨later, taken'⟩ := exists_fills_apply ordered order.id made
    exact ⟨later, taken.trans taken'⟩

end Ledger

namespace Scenario

/-- An order of the maker that pays ten of the smallest units for seven. -/
def tenForSeven : Order := ⟨.ofNat 1, tokens.skr, ⟨10⟩, tokens.gem, ⟨7⟩, maker⟩

/-- The order is on the book, and the keeper may pay for it. -/
def offered : Ledger :=
  let l := base.chain.ledger.approve tokens.gem keeper contracts.otc Approval.allowance
  { l with orders := l.orders.insert tenForSeven.id tenForSeven }

def taken (l : Ledger) (quantity : Wad) : Ledger :=
  (l.act keeper contracts.otc (.take tenForSeven.id quantity)).toOption.getD l

theorem act_eq_taken (l : Ledger) (quantity : Wad)
    (made : (l.act keeper contracts.otc (.take tenForSeven.id quantity)).isOk = true) :
    l.act keeper contracts.otc (.take tenForSeven.id quantity) = .ok (taken l quantity) := by
  rw [taken]
  cases came : l.act keeper contracts.otc (.take tenForSeven.id quantity) with
  | ok m => rfl
  | error halt =>
      rw [came] at made
      cases made

end Scenario

namespace Ledger

open Scenario

/-- Ten units are taken as three, three and four, for two, two and three. In between the maker
cannot pay for its own order, and the keeper asks for more than is left. -/
theorem filledBy_fills_tenForSeven :
    offered.orders.find? tenForSeven.id = some tenForSeven ∧ tenForSeven.isLive = true ∧
      ∃ fills m, offered.Fills tenForSeven.id fills m ∧
        fills.map (·.spent.raw) = [3, 2, 2] ∧ Fill.handed fills = tenForSeven.pay.raw ∧
        m.orders.find? tenForSeven.id = none ∧ Fill.paid fills = tenForSeven.buy.raw := by
  let after₁ := taken offered ⟨3⟩
  let after₂ := taken after₁ ⟨3⟩
  let after₃ := taken after₂ ⟨4⟩
  have placed : offered.orders.find? tenForSeven.id = some tenForSeven := by decide
  have live : tenForSeven.isLive = true := by decide
  have left₁ : after₁.orders.find? tenForSeven.id =
    some { tenForSeven with pay := ⟨7⟩, buy := ⟨5⟩ } := by decide +kernel
  have left₂ : after₂.orders.find? tenForSeven.id =
    some { tenForSeven with pay := ⟨4⟩, buy := ⟨3⟩ } := by decide +kernel
  have first := Fills.start.take placed (act_eq_taken _ ⟨3⟩ (by decide +kernel))
  have poor : (after₁.act maker Scenario.contracts.otc (.take tenForSeven.id ⟨3⟩)).isOk = false :=
    by decide +kernel
  have second := (first.undone poor).take left₁ (act_eq_taken _ ⟨3⟩ (by decide +kernel))
  have excess : (after₂.act keeper Scenario.contracts.otc (.take tenForSeven.id ⟨5⟩)).isOk = false :=
    by decide +kernel
  have third := (second.undone excess).take left₂
    (act_eq_taken _ ⟨4⟩ (by decide +kernel))
  obtain ⟨-, gone, paid, -⟩ := filledBy_fills placed live third
  have all := gone.mpr (by decide +kernel)
  exact ⟨placed, live, _, after₃, third, by decide +kernel, by decide +kernel, all, paid all⟩

end Ledger

namespace SimulatedChain

variable {α : Type} {c c' : SimulatedChain} {order : Order}

theorem exists_fills_answer {query : World.Query} {given : World.Answer query}
    (ordered : c.ledger.Ordered) (id : OrderId) (came : answer query c = .ok (given, c')) :
    ∃ fills, c.ledger.Fills id fills c'.ledger := by
  cases query with
  | broadcast call =>
      change c.broadcast call = .ok (given, c') at came
      rw [broadcast] at came
      split at came
      · cases came
        exact ⟨[], .start⟩
      · split at came
        · next made =>
            cases came
            exact Ledger.exists_fills_apply ordered id made
        · cases came
          exact ⟨[], .start⟩
        · cases came
  | vault =>
      have read : c.readVault = (given, c') := Except.ok.inj came
      obtain rfl : c.readVault.2 = c' := congrArg Prod.snd read
      rw [ledger_readVault]
      exact ⟨[], .start⟩
  | receipt hash =>
      have waited : c.receipt hash = (given, c') := Except.ok.inj came
      obtain rfl : (c.receipt hash).2 = c' := congrArg Prod.snd waited
      rw [ledger_receipt]
      exact ⟨[], .start⟩
  | blockNumber | tokens | orders | balance | allowance | sleep | record | enter =>
      cases came
      exact ⟨[], .start⟩

/-- Whatever work is done on a chain takes an order in some parts, or leaves it alone. -/
theorem exists_fills_run (ordered : c.ledger.Ordered) (id : OrderId) (p : Work α) {a : α}
    (came : p.run answer c = .ok (a, c')) : ∃ fills, c.ledger.Fills id fills c'.ledger := by
  induction p generalizing c with
  | done a =>
      cases came
      exact ⟨[], .start⟩
  | ask query next ih =>
      obtain ⟨⟨given, middle⟩, first, came⟩ := exists_of_bind_eq_ok came
      have kept := (preserves_answer ordered query).conserves given middle first
      obtain ⟨fills, taken⟩ := exists_fills_answer ordered id first
      obtain ⟨later, taken'⟩ := ih given (kept.ordered ordered) came
      exact ⟨_, taken.trans taken'⟩

/-- Whatever work is done on a chain: an order that was live is filled in some parts, and what is
left of it is live. -/
theorem filledBy_run (ordered : c.ledger.Ordered)
    (placed : c.ledger.orders.find? order.id = some order) (live : order.isLive = true)
    (p : Work α) {a : α} (came : p.run answer c = .ok (a, c')) :
    ∃ fills, order.FilledBy fills (c'.ledger.orders.find? order.id) := by
  obtain ⟨fills, taken⟩ := exists_fills_run ordered order.id p came
  exact ⟨fills, taken.filledBy placed live⟩

end SimulatedChain

end Arbitrage
