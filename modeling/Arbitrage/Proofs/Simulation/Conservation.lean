import Arbitrage.Proofs.Simulation.Batch
import Arbitrage.Simulation.Scenario

/-!
# The shares that nobody can point at

A ledger has issued some number of pool shares beyond those that can be pointed at, its surplus.
Every call leaves the surplus as it is, whatever it does to the five places where shares are kept,
and whether it is one action or a batch with batches in it. A ledger with no deficit, a spread within
bounds and no order that pays nothing is solvent, and on a solvent ledger no call runs into an
impossible state.

What one call keeps is put together from its parts with `Keeps`: the parts of a batch follow one
another, and each starts from a ledger that the one before has left in order.
-/

namespace Arbitrage

def Pays (orders : Table OrderId Order) : Prop :=
  ∀ id order, orders.find? id = some order → order.pay.raw ≠ 0

namespace Ledger

/-- What is left of an order that was taken is kept only as long as it pays something. -/
theorem pays_settle {orders : Table OrderId Order} (pays : Pays orders) (order : Order)
    (payLeft spend : Wad) : Pays (settle orders order payLeft spend) := by
  intro id found listed
  rw [find?_settle] at listed
  split at listed
  · split at listed
    · cases listed
    · next left =>
        cases listed
        show payLeft.raw ≠ 0
        simpa [Amount.isZero] using left
  · exact pays id found listed

/-- The shares issued beyond those that can be pointed at; negative if too few were issued. -/
def surplus (l : Ledger) : Int := l.shares.raw - l.accounted

/-- Nothing that a call may need of a ledger is missing. -/
structure Solvent (l : Ledger) : Prop where
  surplus : 0 ≤ l.surplus
  gap : l.vault.gap ≤ Amount.ofUnits 2
  pays : Pays l.orders

/-- The tokens of a ledger can be told apart, and its orders are filed under their numbers. -/
structure Ordered (l : Ledger) : Prop where
  distinct : l.tokens.Distinct
  filed : Filed l.orders

/-- What every call leaves as it is: the tokens, the gap of the vault and the surplus; orders stay
under their numbers, and none is left that pays nothing. -/
structure Conserves (l l' : Ledger) : Prop where
  tokens : l'.tokens = l.tokens
  gap : l'.vault.gap = l.vault.gap
  filed : Filed l.orders → Filed l'.orders
  pays : Pays l.orders → Pays l'.orders
  surplus : l'.surplus = l.surplus

variable {l m l' : Ledger} {caller executor target : Address} {action : Action} {d : Deal}

theorem Solvent.backed (solvent : l.Solvent) : l.Backed := by
  have surplus := solvent.surplus
  unfold Ledger.surplus at surplus
  unfold Backed
  omega

theorem Conserves.refl (l : Ledger) : l.Conserves l := ⟨rfl, rfl, id, id, rfl⟩

theorem Conserves.trans (first : l.Conserves m) (second : m.Conserves l') : l.Conserves l' :=
  ⟨second.tokens.trans first.tokens, second.gap.trans first.gap, second.filed ∘ first.filed,
    second.pays ∘ first.pays, second.surplus.trans first.surplus⟩

theorem Conserves.ordered (kept : l.Conserves m) (ordered : l.Ordered) : m.Ordered := by
  refine ⟨?_, kept.filed ordered.filed⟩
  rw [kept.tokens]
  exact ordered.distinct

theorem Conserves.solvent (kept : l.Conserves m) (solvent : l.Solvent) : m.Solvent := by
  refine ⟨?_, ?_, kept.pays solvent.pays⟩
  · rw [kept.surplus]
    exact solvent.surplus
  · rw [kept.gap]
    exact solvent.gap

theorem conserves_of_circulating (balances : Table (Address × Address) Wad)
    (same : ({ l with balances } : Ledger).circulating = l.circulating) :
    l.Conserves { l with balances } := by
  refine ⟨rfl, rfl, id, id, ?_⟩
  unfold surplus accounted
  rw [same]

theorem conserves_move (l : Ledger) (token giver taker : Address) :
    l.Conserves (l.move token giver taker) :=
  conserves_of_circulating (l.move token giver taker).balances (l.circulating_move token giver taker)

theorem conserves_sweep (l : Ledger) (giver taker : Address) (tokens : List Address) :
    l.Conserves (l.sweep giver taker tokens) := by
  have circulating := l.circulating_sweep giver taker tokens
  rw [sweep_eq] at circulating ⊢
  exact conserves_of_circulating _ circulating

theorem conserves_approve (l : Ledger) (token owner spender : Address) (amount : Word) :
    l.Conserves (l.approve token owner spender amount) := ⟨rfl, rfl, id, id, rfl⟩

theorem gap_of_deal? (deal : l.deal? action = some d) : d.vault.gap = l.vault.gap := by
  cases action with
  | approve spender amount => cases deal
  | join wad =>
      cases deal
      rfl
  | exit wad =>
      cases deal
      rfl
  | boom wad =>
      obtain ⟨_, _, -, -, rfl⟩ := deal?_boom_eq_some_iff.mp deal
      rfl
  | bust wad =>
      obtain ⟨_, _, -, -, rfl⟩ := deal?_bust_eq_some_iff.mp deal
      rfl
  | take id quantity =>
      obtain ⟨-, taken⟩ := deal?_take_eq_some_iff.mp deal
      obtain ⟨_, _, -, -, -, rfl⟩ := takeDeal?_eq_some_iff.mp taken
      rfl

theorem pays_of_deal? (pays : Pays l.orders) (deal : l.deal? action = some d) : Pays d.orders := by
  rcases orders_of_deal? deal with ⟨same, -⟩ | ⟨_, _, order, payLeft, -, -, settled, -⟩
  · rw [same]
    exact pays
  · rw [settled]
    exact pays_settle pays order payLeft _

theorem conserves_exchange (ordered : l.Ordered) (issued : action.retired ≤ l.shares)
    (deal : l.deal? action = some d) (can : l.Affords caller d) :
    l.Conserves (l.exchange caller d) := by
  have accounted := accounted_exchange ordered.distinct ordered.filed issued deal can
  have shares : (l.exchange caller d).shares = d.shares := rfl
  refine ⟨?_, gap_of_deal? deal, (filed_of_deal? · deal), (pays_of_deal? · deal), ?_⟩
  · rw [exchange_eq]
  · show ((l.exchange caller d).shares.raw : Int) - (l.exchange caller d).accounted =
      l.shares.raw - l.accounted
    rw [shares]
    omega

section Refusals

variable {wad quantity : Wad} {id : OrderId}

theorem boom_of_refused (refused : l.deal? (.boom wad) = none) :
    ∃ halt, l.boom caller wad = .error halt ∧ (l.Solvent → halt = .reverted) := by
  cases spread : (Amount.ofUnits 2 : Wad).sub? l.vault.gap with
  | none =>
      refine ⟨.impossible, by simp only [boom, insist, spread]; rfl, ?_⟩
      intro solvent
      have bounded : (Amount.ofUnits 2 : Wad).sub? l.vault.gap ≠ none := by
        have gap : l.vault.gap.raw ≤ (Amount.ofUnits 2 : Wad).raw := solvent.gap
        rw [Amount.sub?, if_pos gap]
        exact Option.some_ne_none _
      exact absurd spread bounded
  | some spread' =>
      cases joy : l.vault.joy.sub? (wad * (l.vault.tag * spread' : Wad) : Wad) with
      | none => exact ⟨.reverted, by simp [boom, insist, spread, joy, bind, Except.bind], fun _ => rfl⟩
      | some joy' => simp [deal?, spread, joy] at refused

theorem bust_of_refused (refused : l.deal? (.bust wad) = none) :
    l.bust caller wad = .error .reverted := by
  cases fog : l.vault.fog.sub? wad with
  | none => simp only [bust, insist, fog]; rfl
  | some fog' =>
      cases woe : l.vault.woe.sub? (wad * (l.vault.tag * l.vault.gap : Wad) : Wad) with
      | none => simp only [bust, insist, fog, woe]; rfl
      | some woe' => simp [deal?, fog, woe] at refused

theorem take_of_refused (caller : Address) (refused : l.deal? (.take id quantity) = none) :
    ∃ halt, l.take caller id quantity = .error halt ∧
      ((∀ order, l.orders.find? id = some order → order.pay.raw ≠ 0) → halt = .reverted) := by
  by_cases blocked : l.blocked.contains id = true
  · exact ⟨.reverted, by simp only [take, blocked]; rfl, fun _ => rfl⟩
  cases listed : l.orders.find? id with
  | none => exact ⟨.reverted, by simp only [take, blocked, listed]; rfl, fun _ => rfl⟩
  | some order =>
      cases left : order.pay.sub? quantity with
      | none =>
          exact ⟨.reverted, by simp only [take, blocked, listed, insist, left]; rfl, fun _ => rfl⟩
      | some payLeft =>
          by_cases idle : order.pay.isZero = true
          · refine ⟨.impossible, by simp only [take, blocked, listed, insist, left, idle]; rfl, ?_⟩
            intro pays
            exact absurd (Amount.isZero_iff.mp idle) (pays order rfl)
          · rw [deal?, if_neg blocked] at refused
            simp [takeDeal?, listed, left, idle] at refused

/-- A call without a deal has no effect. It comes to an impossible state only on a ledger whose
spread is out of bounds, or which has an order that pays nothing. -/
theorem act_of_refused (caller target : Address) (refused : l.deal? action = none)
    (deals : ∀ spender amount, action ≠ .approve spender amount) :
    ∃ halt, l.act caller target action = .error halt ∧ (l.Solvent → halt = .reverted) := by
  cases action with
  | approve spender amount => exact absurd rfl (deals spender amount)
  | join wad => cases refused
  | exit wad => cases refused
  | boom wad => exact boom_of_refused refused
  | bust wad => exact ⟨.reverted, bust_of_refused refused, fun _ => rfl⟩
  | take id quantity =>
      obtain ⟨halt, came, reverts⟩ := take_of_refused caller refused
      exact ⟨halt, came, fun solvent => reverts (solvent.pays id)⟩

end Refusals

/-- Whatever comes of a ledger has conserved all there is, and from a solvent ledger it is not the
impossible. -/
structure Keeps (l : Ledger) (r : Except Halt Ledger) : Prop where
  conserves : ∀ l', r = .ok l' → l.Conserves l'
  possible : l.Solvent → r ≠ .error .impossible

section Parts

variable {r : Except Halt Ledger} {f : Ledger → Except Halt Ledger} {halt : Halt}

theorem Conserves.keeps (kept : l.Conserves m) : l.Keeps (.ok m) := by
  refine ⟨?_, fun _ => nofun⟩
  intro l' same
  cases same
  exact kept

theorem keeps_error (possible : l.Solvent → halt = .reverted) : l.Keeps (.error halt) := by
  refine ⟨nofun, ?_⟩
  intro solvent impossible
  cases impossible
  cases possible solvent

/-- What follows a part starts from what that part has conserved. -/
theorem Keeps.bind (first : l.Keeps r) (next : ∀ m, l.Conserves m → m.Keeps (f m)) :
    l.Keeps (r.bind f) := by
  cases r with
  | error halt =>
      refine ⟨nofun, ?_⟩
      intro solvent impossible
      exact first.possible solvent impossible
  | ok m =>
      have kept := first.conserves m rfl
      have later := next m kept
      exact ⟨fun l' came => kept.trans (later.conserves l' came),
        fun solvent => later.possible (kept.solvent solvent)⟩

theorem Keeps.map {g : Ledger → Ledger} (first : l.Keeps r)
    (next : ∀ m : Ledger, m.Conserves (g m)) :
    l.Keeps (r.map g) := by
  have same : r.map g = r.bind fun m => .ok (g m) := by cases r <;> rfl
  rw [same]
  exact first.bind fun m _ => (next m).keeps

end Parts

theorem keeps_act (ordered : l.Ordered) (caller target : Address) (action : Action) :
    l.Keeps (l.act caller target action) := by
  by_cases approval : ∃ spender amount, action = .approve spender amount
  · obtain ⟨spender, amount, rfl⟩ := approval
    exact (l.conserves_approve target caller spender amount).keeps
  cases deal : l.deal? action with
  | none =>
      have deals : ∀ spender amount, action ≠ .approve spender amount :=
        fun spender amount same => approval ⟨spender, amount, same⟩
      obtain ⟨halt, came, reverts⟩ := act_of_refused caller target deal deals
      rw [came]
      exact keeps_error reverts
  | some d =>
      rw [act_eq_of_deal? deal]
      -- Retiring is checked after the caller has paid, so nothing is impossible for who cannot pay.
      by_cases can : l.Affords caller d
      · rw [perform_of_affords can]
        show l.Keeps (if action.retired ≤ l.shares then _ else _)
        by_cases issued : action.retired ≤ l.shares
        · rw [if_pos issued]
          exact (conserves_exchange ordered issued deal can).keeps
        · rw [if_neg issued]
          refine keeps_error fun solvent => absurd ?_ issued
          have held := retired_le_of_affords deal can
          exact Nat.le_trans held (solvent.backed.balance_le caller)
      · rw [perform_of_not_affords can]
        exact keeps_error fun _ => rfl

theorem keeps_gather (l : Ledger) (caller executor : Address) (tokens : List Address) :
    l.Keeps (l.gather caller executor tokens) := by
  induction tokens generalizing l with
  | nil => exact (Conserves.refl l).keeps
  | cons token tokens ih =>
      by_cases can : l.CanPull token caller executor (l.balance token caller)
      · have moved : l.gather caller executor (token :: tokens) =
            (Except.ok (l.move token caller executor)).bind (·.gather caller executor tokens) := by
          rw [gather, pull_of_canPull can]
          rfl
        rw [moved]
        exact (l.conserves_move token caller executor).keeps.bind fun m _ => ih m
      · have halted : l.gather caller executor (token :: tokens) = .error .reverted := by
          rw [gather, pull_of_not_canPull can]
          rfl
        rw [halted]
        exact keeps_error fun _ => rfl

mutual

theorem keeps_apply {l : Ledger} (ordered : l.Ordered) (caller : Address) (call : Call) :
    l.Keeps (l.apply caller call) := by
  cases call with
  | single target action => exact keeps_act ordered caller target action
  | batch executor tokens invocations =>
      by_cases apart : caller = executor
      · rw [apply, if_pos apart]
        exact keeps_error fun _ => rfl
      · rw [apply_batch_eq apart]
        -- The invocations run on what the way out has left, in the name of the executor.
        refine ((l.keeps_gather caller executor tokens).bind ?_).map ?_
        · intro gathered kept
          exact keeps_applyAll (kept.ordered ordered) executor invocations
        · intro made
          exact made.conserves_sweep executor caller tokens

theorem keeps_applyAll {l : Ledger} (ordered : l.Ordered) (caller : Address) (calls : List Call) :
    l.Keeps (l.applyAll caller calls) := by
  cases calls with
  | nil =>
      rw [applyAll]
      exact (Conserves.refl l).keeps
  | cons call calls =>
      rw [applyAll_cons]
      refine (keeps_apply ordered caller call).bind ?_
      intro after kept
      exact keeps_applyAll (kept.ordered ordered) caller calls

end

end Ledger

namespace SimulatedChain

variable {α β : Type} {c c' : SimulatedChain}

/-- Whatever comes of a chain has conserved all there is on its ledger, and something does come of a
chain whose ledger is solvent. -/
structure Preserves (c : SimulatedChain) (r : Except Halt (α × SimulatedChain)) : Prop where
  conserves : ∀ a c', r = .ok (a, c') → c.ledger.Conserves c'.ledger
  possible : c.ledger.Solvent → ∃ a c', r = .ok (a, c')

theorem preserves_ok {a : α} (kept : c.ledger.Conserves c'.ledger) : c.Preserves (.ok (a, c')) := by
  refine ⟨?_, fun _ => ⟨a, c', rfl⟩⟩
  intro _ _ same
  cases same
  exact kept

theorem Preserves.bind {r : Except Halt (α × SimulatedChain)}
    {f : α × SimulatedChain → Except Halt (β × SimulatedChain)} (first : c.Preserves r)
    (next : ∀ (a : α) (c' : SimulatedChain), c.ledger.Conserves c'.ledger →
      c'.Preserves (f (a, c'))) :
    c.Preserves (r >>= f) := by
  cases r with
  | error halt =>
      refine ⟨nofun, ?_⟩
      intro solvent
      obtain ⟨_, _, came⟩ := first.possible solvent
      cases came
  | ok pair =>
      obtain ⟨a, c₁⟩ := pair
      have kept := first.conserves a c₁ rfl
      have later := next a c₁ kept
      exact ⟨fun b c' came => kept.trans (later.conserves b c' came),
        fun solvent => later.possible (kept.solvent solvent)⟩

theorem preserves_broadcast (ordered : c.ledger.Ordered) (call : Call) :
    c.Preserves (c.broadcast call) := by
  have keeps := Ledger.keeps_apply ordered c.account call
  rw [broadcast]
  cases call.calldata with
  | error e => exact preserves_ok (.refl _)
  | ok data =>
      cases applied : c.ledger.apply c.account call with
      | ok l => exact preserves_ok (keeps.conserves l applied)
      | error halt =>
          cases halt with
          | reverted => exact preserves_ok (.refl _)
          | impossible =>
              refine ⟨?_, fun solvent => absurd applied (keeps.possible solvent)⟩
              intro r c' came
              cases came

theorem ledger_readVault (c : SimulatedChain) : c.readVault.2.ledger = c.ledger := by
  rw [readVault]
  split <;> rfl

theorem ledger_receipt (c : SimulatedChain) (hash : Word) :
    (c.receipt hash).2.ledger = c.ledger := by
  rw [receipt]
  split
  · rfl
  · split <;> rfl

theorem preserves_answer (ordered : c.ledger.Ordered) (query : World.Query) :
    c.Preserves (answer query c) := by
  cases query with
  | broadcast call => exact preserves_broadcast ordered call
  | vault =>
      have kept : c.ledger.Conserves c.readVault.2.ledger := by
        rw [ledger_readVault]
        exact .refl _
      exact preserves_ok kept
  | receipt hash =>
      have kept : c.ledger.Conserves (c.receipt hash).2.ledger := by
        rw [ledger_receipt]
        exact .refl _
      exact preserves_ok kept
  | blockNumber | tokens | orders | balance | allowance | sleep | record | enter =>
      exact preserves_ok (.refl _)

/-- A whole run, by induction on the work: reading leaves the chain as it is, and what is sent takes
effect as a whole or not at all. -/
theorem preserves_run (ordered : c.ledger.Ordered) (p : Work α) : c.Preserves (p.run answer c) := by
  induction p generalizing c with
  | done a => exact preserves_ok (.refl _)
  | ask query next ih =>
      refine (preserves_answer ordered query).bind ?_
      intro given c' kept
      exact ih given (kept.ordered ordered)

/-- Whatever work is done on a chain, and whatever calls it sends, the surplus of the ledger stays
the same. If it is not negative, the gap is at most 2 and every order pays something, then no call
comes to an impossible state. -/
theorem surplus_run (p : Work α) (distinct : c.ledger.tokens.Distinct)
    (filed : Filed c.ledger.orders) :
    (∀ a c', p.run answer c = .ok (a, c') → c'.ledger.surplus = c.ledger.surplus) ∧
      (0 ≤ c.ledger.surplus → c.ledger.vault.gap ≤ Amount.ofUnits 2 → Pays c.ledger.orders →
        ∃ a c', p.run answer c = .ok (a, c')) := by
  have preserves := preserves_run (c := c) ⟨distinct, filed⟩ p
  refine ⟨?_, ?_⟩
  · intro a c' came
    exact (preserves.conserves a c' came).surplus
  · intro surplus gap pays
    exact preserves.possible ⟨surplus, gap, pays⟩

end SimulatedChain

namespace Scenario

/-- Fill a part of the order in a batch, and exit a part of what it pays in a batch within it. The
last call asks for more than the order has left. -/
def fillAndExit : Attempt Unit := do
  let _ ← World.broadcast (.approve tokens.gem executor Approval.allowance)
  let _ ← World.broadcast (.batch executor [tokens.gem, tokens.skr] [
    .approve tokens.gem contracts.otc Approval.allowance,
    .single contracts.otc (.take (.ofNat 1) (.ofUnits 60)),
    .approve tokens.skr maker Approval.allowance,
    .batch maker [tokens.skr] [
      .approve tokens.skr contracts.tub Approval.allowance,
      .single contracts.tub (.exit (.ofUnits 20))]])
  let _ ← World.broadcast (.single contracts.otc (.take (.ofNat 1) (.ofUnits 60)))

end Scenario

namespace SimulatedChain

open Scenario

/-- Nobody can point at more shares, or at fewer, however many of them are paid out and retired. -/
theorem surplus_run_fillAndExit :
    buyAndExit.chain.ledger.tokens.Distinct ∧ Filed buyAndExit.chain.ledger.orders ∧
      buyAndExit.chain.ledger.surplus = 0 ∧
      buyAndExit.chain.ledger.vault.gap ≤ Amount.ofUnits 2 ∧ Pays buyAndExit.chain.ledger.orders ∧
      ∃ a c', fillAndExit.run.run answer buyAndExit.chain = .ok (a, c') ∧ c'.ledger.surplus = 0 := by
  have entries : ∀ e ∈ buyAndExit.chain.ledger.orders.entries, e.2.id = e.1 ∧ e.2.pay.raw ≠ 0 := by
    decide
  have distinct : buyAndExit.chain.ledger.tokens.Distinct := ⟨by decide, by decide, by decide⟩
  have filed : Filed buyAndExit.chain.ledger.orders :=
    fun id order found => (entries _ (Table.mem_of_find? found)).1
  have pays : Pays buyAndExit.chain.ledger.orders :=
    fun id order found => (entries _ (Table.mem_of_find? found)).2
  have surplus : buyAndExit.chain.ledger.surplus = 0 := by decide +kernel
  have gap : buyAndExit.chain.ledger.vault.gap ≤ Amount.ofUnits 2 := by decide
  obtain ⟨same, possible⟩ := surplus_run fillAndExit.run distinct filed
  obtain ⟨a, c', came⟩ := possible (Int.le_of_eq surplus.symm) gap pays
  refine ⟨distinct, filed, surplus, gap, pays, a, c', came, ?_⟩
  rw [same a c' came, surplus]

end SimulatedChain

end Arbitrage
