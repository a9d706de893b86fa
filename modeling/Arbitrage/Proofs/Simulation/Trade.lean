import Arbitrage.Proofs.Simulation.Batch
import Arbitrage.Proofs.Simulation.Offer

/-!
# Trading a plan on a ledger

A `Relay` is a list of sized steps each of which hands on what it brings. On a ledger that offers
its edges, an account with the approvals of the protocol and the input at hand trades it to the end
(`applyAll_of_relay`): the cost of no step exceeds what the step before it brought, so what arrives
is at least what the relay states, and no other holding of the account has become less.
-/

namespace Arbitrage

/-- The amounts of a step fit their on-chain integers, so that its call has data. -/
structure Step.Fits (step : Step) : Prop where
  amountIn : step.amountIn.raw < 2 ^ 256
  amountOut : step.amountOut.raw < 2 ^ 256
  quantity : step.edge.orderId?.isSome = true → step.amountOut.raw < 2 ^ 128

/-- Steps that lead from one amount of a token to one of another. -/
inductive Relay (tokens : Tokens) : Address → Wad → List Step → Address → Wad → Prop
  | nil (token : Address) (x : Wad) : Relay tokens token x [] token x
  | cons {step : Step} {steps : List Step} {last : Address} {y : Wad} (sized : step.Sized tokens)
      (rest : Relay tokens step.target.address step.amountOut steps last y) :
      Relay tokens step.source.address step.amountIn (step :: steps) last y

namespace Ledger

def Approved (l : Ledger) (owner : Address) : Prop :=
  ∀ a ∈ Approval.protocol l.tokens l.contracts,
    l.allowance a.token owner a.spender = Approval.allowance

/-- A ledger offers all that some steps trade at, one market each. -/
structure Tradable (l : Ledger) (steps : List Step) : Prop where
  offers : ∀ step ∈ steps, l.Offers step.edge
  keys : (steps.map fun step => step.edge.key).Nodup
  fits : ∀ step ∈ steps, step.Fits

/-- The same can be traded on two ledgers: they differ in holdings and allowances only. -/
abbrev SameMarket (l m : Ledger) : Prop :=
  ∃ balances allowances, m = { l with balances, allowances }

variable {l m : Ledger} {caller : Address} {d : Deal} {step : Step} {steps : List Step}

theorem SameMarket.tokens (same : l.SameMarket m) : m.tokens = l.tokens := by
  obtain ⟨_, _, rfl⟩ := same
  rfl

theorem SameMarket.tradable (same : l.SameMarket m) (tradable : l.Tradable steps) :
    m.Tradable steps := by
  obtain ⟨_, _, rfl⟩ := same
  exact ⟨tradable.offers, tradable.keys, tradable.fits⟩

theorem SameMarket.honours (same : l.SameMarket m) (honours : l.Honours d step) :
    m.Honours d step := by
  obtain ⟨_, _, rfl⟩ := same
  exact ⟨honours.paid, honours.got, honours.cost_le, honours.le_gain, honours.protocol⟩

theorem SameMarket.deal? (same : l.SameMarket m) (action : Action) : m.deal? action = l.deal? action := by
  obtain ⟨_, _, rfl⟩ := same
  cases action <;> rfl

theorem SameMarket.blocks (same : l.SameMarket m) {e : Edge} (blocks : l.Blocks e) : m.Blocks e := by
  obtain ⟨_, _, rfl⟩ := same
  exact blocks

theorem SameMarket.not_blocks (same : l.SameMarket m) (free : l.blocked = []) :
    ∀ step ∈ steps, ¬ m.Blocks step.edge := by
  obtain ⟨_, _, rfl⟩ := same
  rintro step - ⟨id, listed, -⟩
  rw [free] at listed
  cases listed

/-- With its approvals in place, an account can pay whatever it holds. -/
theorem Honours.affords_iff (honours : l.Honours d step) (approved : l.Approved caller)
    (fits : step.Fits) : l.Affords caller d ↔ d.cost ≤ l.balance d.paid caller := by
  have small : d.cost.raw < 2 ^ 256 := Nat.lt_of_le_of_lt honours.cost_le fits.amountIn
  have allowed : d.cost.raw ≤ (l.allowance d.paid caller d.spender).toNat := by
    rw [approved _ honours.protocol, Approval.allowance, Word.toNat_max]
    omega
  exact ⟨fun can => can.2.2, fun held => ⟨small, allowed, held⟩⟩

theorem Approved.exchange (approved : l.Approved caller) (other : Address) (d : Deal) :
    (l.exchange other d).Approved caller := by
  rw [Approved]
  rw [exchange_allowance]
  rw [exchange_eq]
  exact approved

/-- The markets of the steps that are left are untouched by the deal of the first. -/
theorem Tradable.exchange (tradable : l.Tradable (step :: steps)) (filed : Filed l.orders)
    (contracts : Contracts) (deal : l.deal? (Action.ofStep contracts step).2 = some d) :
    (l.exchange caller d).Tradable steps := by
  obtain ⟨offers, keys, fits⟩ := tradable
  obtain ⟨fresh, keys⟩ := List.nodup_cons.mp keys
  refine ⟨?_, keys, fun later listed => fits later (List.mem_cons_of_mem _ listed)⟩
  intro later listed
  apply (offers later (List.mem_cons_of_mem _ listed)).exchange filed deal
  rw [Action.key?_ofStep]
  intro same
  exact fresh (List.mem_map.mpr ⟨later, listed, (Option.some.inj same).symm⟩)

/-- What the caller holds after a deal: what it paid is less than what went in, what it received is
at least what comes out. -/
theorem Honours.balance_caller (honours : l.Honours d step) (can : l.Affords caller d) (t : Address) :
    (l.balance t caller).raw + (if t = step.target.address then step.amountOut.raw else 0) ≤
      ((l.exchange caller d).balance t caller).raw +
        if t = step.source.address then step.amountIn.raw else 0 := by
  have moved := raw_balance_exchange can t caller
  have cost : d.cost.raw ≤ step.amountIn.raw := honours.cost_le
  have gain : step.amountOut.raw ≤ d.gain.raw := honours.le_gain
  simp only [honours.paid, honours.got, and_true] at moved
  have pays : (if t = step.source.address then d.cost.raw else 0) ≤
      if t = step.source.address then step.amountIn.raw else 0 := by split <;> omega
  have gets : (if t = step.target.address then step.amountOut.raw else 0) ≤
      if t = step.target.address then d.gain.raw else 0 := by split <;> omega
  omega

/-- After its deal a step can be followed by one that takes what it brought. -/
theorem Honours.amountOut_le (honours : l.Honours d step) (can : l.Affords caller d) :
    step.amountOut ≤ (l.exchange caller d).balance step.target.address caller := by
  have moved := raw_balance_exchange can step.target.address caller
  have gain : step.amountOut.raw ≤ d.gain.raw := honours.le_gain
  have held : d.cost.raw ≤ (l.balance d.paid caller).raw := can.2.2
  rw [Amount.le_def]
  simp only [honours.got, and_true, if_true] at moved
  by_cases same : step.target.address = d.paid
  · rw [← same] at held
    rw [if_pos same] at moved
    omega
  · rw [if_neg same] at moved
    omega

theorem le_balance_exchange {o : Address} (can : l.Affords caller d) (other : o ≠ caller)
    (t : Address) : (l.balance t o).raw ≤ ((l.exchange caller d).balance t o).raw := by
  have moved := raw_balance_exchange can t o
  simp only [other, and_false, if_false] at moved
  omega

theorem apply_ofStep {contracts : Contracts} (caller : Address) (sound : l.Sound)
    (deal : l.deal? (Action.ofStep contracts step).2 = some d) :
    l.apply caller (Call.ofStep contracts step) = l.perform caller d := by
  rw [Call.ofStep, apply]
  exact act_of_deal? (sound.backed.balance_le caller) deal

/-- An account that holds the input trades a relay to its end. It ends up with the output in place
of the input, or better, and with no less of anything else; and no other account loses anything. -/
theorem applyAll_of_relay {tokens : Tokens} {first last : Address} {x y : Wad}
    (relay : Relay tokens first x steps last y) (contracts : Contracts) (same : l.tokens = tokens)
    (sound : l.Sound) (approved : l.Approved caller) (tradable : l.Tradable steps)
    (free : ∀ step ∈ steps, ¬ l.Blocks step.edge) (held : x ≤ l.balance first caller) :
    ∃ l', l.applyAll caller (steps.map (Call.ofStep contracts)) = .ok l' ∧
      (∀ t, (l.balance t caller).raw + (if t = last then y.raw else 0) ≤
        (l'.balance t caller).raw + if t = first then x.raw else 0) ∧
      ∀ t o, o ≠ caller → (l.balance t o).raw ≤ (l'.balance t o).raw := by
  induction relay generalizing l with
  | nil token x =>
      exact ⟨l, by rw [List.map_nil, applyAll], fun t => Nat.le_refl _, fun t o _ => Nat.le_refl _⟩
  | @cons step steps last y sized rest ih =>
      subst same
      obtain ⟨d, deal, honours⟩ := (tradable.offers step List.mem_cons_self).exists_deal sized
        (free step List.mem_cons_self) contracts
      have can : l.Affords caller d := by
        refine (honours.affords_iff approved (tradable.fits step List.mem_cons_self)).mpr ?_
        rw [honours.paid]
        exact Nat.le_trans honours.cost_le held
      obtain ⟨l', applied, gained, kept⟩ := ih (by rw [exchange_eq]) (sound.exchange deal can)
        (approved.exchange caller d) (tradable.exchange sound.filed contracts deal)
        (fun later listed => by rw [exchange_eq]; exact free later (List.mem_cons_of_mem _ listed))
        (honours.amountOut_le can)
      refine ⟨l', ?_, ?_, ?_⟩
      · rw [List.map_cons, applyAll_cons, apply_ofStep caller sound deal, perform_of_affords can]
        exact applied
      · intro t
        have before := honours.balance_caller can t
        have after := gained t
        omega
      · intro t o other
        exact Nat.le_trans (le_balance_exchange can other t) (kept t o other)

end Ledger

end Arbitrage
