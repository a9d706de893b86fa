import Arbitrage.Proofs.Market.Snapshot
import Arbitrage.Proofs.Simulation.Backing
import Arbitrage.Submission.Approval

/-!
# Edges that a ledger offers

A ledger offers an edge if its vault, or one of its resting orders, gives rise to it. An offer is
good: a step that was sized at an offered edge has a deal, which costs no more than what goes in and
brings at least what comes out (`Offers.exists_deal`). An offer also lasts: no deal at one market
withdraws what another offers (`Offers.exchange`), which is why a path that uses no market twice can
be traded to its end.
-/

namespace Arbitrage

/-- The market at which an action trades; an approval trades at none. -/
def Action.key? : Action → Option EdgeKey
  | .approve _ _ => none
  | .join _ => some (.vault .join)
  | .exit _ => some (.vault .exit)
  | .boom _ => some (.vault .boom)
  | .bust _ => some (.vault .bust)
  | .take id _ => some (.order id)

theorem Action.key?_ofStep (contracts : Contracts) (step : Step) :
    (Action.ofStep contracts step).2.key? = some step.edge.key := by
  rw [Action.ofStep, Edge.key]
  split <;> rename_i same <;> rw [same] <;> rfl

/-- A step that its edge admits, between two tokens of the market. -/
structure Step.Sized (tokens : Tokens) (step : Step) : Prop where
  source : tokens.assets[step.edge.source]? = some step.source
  target : tokens.assets[step.edge.target]? = some step.target
  admits : step.edge.admits step.amountIn = true
  output : step.amountOut = step.edge.output step.amountIn

namespace Ledger

/-- The vault or an order of a ledger gives rise to an edge. -/
def Offers (l : Ledger) (e : Edge) : Prop :=
  match e.key with
  | .vault op => l.vault.edge? Snapshot.vaultAssets op = some e
  | .order id => ∃ order, l.orders.find? id = some order ∧ order.isLive = true ∧
      Snapshot.orderEdge? l.tokens order = some e

def Blocks (l : Ledger) (e : Edge) : Prop := ∃ id ∈ l.blocked, e.key = .order id

/-- A deal keeps what a sized step promises: it pays no more, gains no less, and in the tokens of
the step. -/
structure Honours (l : Ledger) (d : Deal) (step : Step) : Prop where
  paid : d.paid = step.source.address
  got : d.got = step.target.address
  cost_le : d.cost ≤ step.amountIn
  le_gain : step.amountOut ≤ d.gain
  protocol : ⟨d.paid, d.spender⟩ ∈ Approval.protocol l.tokens l.contracts

variable {l : Ledger} {step : Step}

/-- The tokens that the vault reports may be paid at the book. -/
theorem book_mem_protocol {t : Tokens} {contracts : Contracts} {token : Address} {id : AssetId}
    (index : t.index? token = some id) : ⟨token, contracts.otc⟩ ∈ Approval.protocol t contracts := by
  rcases Tokens.mem_of_index? index with rfl | rfl | rfl <;> simp [Approval.protocol]

theorem exists_deal_of_order {id : OrderId} {pay buy : Wad} (offers : l.Offers step.edge)
    (sized : step.Sized l.tokens) (free : ¬ l.Blocks step.edge)
    (terms : step.edge.terms = .order id pay buy) :
    ∃ d, l.deal? (.take id step.amountOut) = some d ∧ l.Honours d step := by
  have key : step.edge.key = .order id := by rw [Edge.key, terms]
  simp only [Offers, key] at offers
  obtain ⟨order, found, live, edge⟩ := offers
  obtain ⟨pays, buys⟩ := Order.isLive_iff.mp live
  obtain ⟨source, target, source_index, target_index, -, same⟩ := Snapshot.orderEdge?_eq_some_iff.mp edge
  have out : step.amountOut.raw = step.amountIn.raw * order.pay.raw / order.buy.raw := by
    rw [sized.output, same]
    simp [Edge.output, Edge.rate, Rate.ofFraction?, buys]
  have within : step.amountIn ≤ order.buy := by
    refine Edge.le_of_admits sized.admits ?_
    rw [same]
    rfl
  have covered : step.amountOut.raw ≤ order.pay.raw := by
    calc step.amountOut.raw = step.amountIn.raw * order.pay.raw / order.buy.raw := out
      _ ≤ order.buy.raw * order.pay.raw / order.buy.raw :=
        Nat.div_le_div_right (Nat.mul_le_mul_right _ within)
      _ = order.pay.raw := Nat.mul_div_cancel_left _ (Nat.pos_of_ne_zero buys)
  have cost : (share order step.amountOut).raw ≤ step.amountIn.raw := by
    simp only [share, out]
    exact Edge.round_trip_le (Nat.le_of_eq (Nat.mul_comm ..)) (Nat.pos_of_ne_zero buys)
  have unblocked : l.blocked.contains id = false := by
    simpa using fun h => free ⟨id, h, key⟩
  have taken := takeDeal?_eq_some_iff.mpr ⟨order, ⟨order.pay.raw - step.amountOut.raw⟩, found,
    Nat.sub_add_cancel covered, pays, rfl⟩
  refine ⟨_, by rw [deal?, unblocked]; exact taken, ?_, ?_, cost, Nat.le_refl _, ?_⟩
  · have source_eq := sized.source
    rw [same] at source_eq
    exact (Tokens.address_of_index? source_index source_eq).symm
  · have target_eq := sized.target
    rw [same] at target_eq
    exact (Tokens.address_of_index? target_index target_eq).symm
  · exact book_mem_protocol source_index

/-- A sized step at an offered edge that is not blocked has a deal that keeps its promise. -/
theorem Offers.exists_deal (offers : l.Offers step.edge) (sized : step.Sized l.tokens)
    (free : ¬ l.Blocks step.edge) (contracts : Contracts) :
    ∃ d, l.deal? (Action.ofStep contracts step).2 = some d ∧ l.Honours d step := by
  obtain ⟨source, target, admits, output⟩ := sized
  rcases terms : step.edge.terms with ⟨op, price, capacity⟩ | ⟨id, pay, buy⟩
  · have key : step.edge.key = .vault op := by rw [Edge.key, terms]
    simp only [Offers, key] at offers
    simp only [Action.ofStep, terms]
    cases op with
    | join =>
        have cost := Vault.join_cost_le offers step.amountIn
        rw [← output] at cost
        obtain ⟨_, -, -, -, same⟩ := Vault.join_edge?_iff.mp offers
        rw [same] at source target
        refine ⟨_, rfl, ?_, ?_, cost, Nat.le_refl _, by simp [Approval.protocol]⟩
        · exact congrArg Asset.address (Option.some.inj source)
        · exact congrArg Asset.address (Option.some.inj target)
    | exit =>
        have gain := Vault.exit_gain_ge offers step.amountIn
        rw [← output] at gain
        obtain ⟨_, -, -, same⟩ := Vault.exit_edge?_iff.mp offers
        rw [same] at source target
        refine ⟨_, rfl, ?_, ?_, Nat.le_refl _, gain, by simp [Approval.protocol]⟩
        · exact congrArg Asset.address (Option.some.inj source)
        · exact congrArg Asset.address (Option.some.inj target)
    | boom =>
        obtain ⟨spread, spread_eq, gain, covered⟩ := Vault.boom_gain_eq offers admits
        rw [← output] at gain covered
        obtain ⟨_, _, -, -, -, -, same⟩ := Vault.boom_edge?_iff.mp offers
        rw [same] at source target
        have left : (⟨l.vault.joy.raw - step.amountOut.raw⟩ : Wad).raw +
            (step.amountIn * (l.vault.tag * spread : Wad) : Wad).raw = l.vault.joy.raw := by
          rw [← gain]
          exact Nat.sub_add_cancel covered
        refine ⟨_, deal?_boom_eq_some_iff.mpr ⟨spread, _, spread_eq, left, rfl⟩, ?_, ?_,
          Nat.le_refl _, Nat.le_of_eq (congrArg Amount.raw gain), by simp [Approval.protocol]⟩
        · exact congrArg Asset.address (Option.some.inj source)
        · exact congrArg Asset.address (Option.some.inj target)
    | bust =>
        obtain ⟨cost, sold, covered⟩ := Vault.bust_cost_le offers admits
        rw [← output] at cost sold covered
        obtain ⟨_, _, _, -, -, -, -, -, -, same⟩ := Vault.bust_edge?_iff.mp offers
        rw [same] at source target
        refine ⟨_, deal?_bust_eq_some_iff.mpr ⟨⟨l.vault.fog.raw - step.amountOut.raw⟩,
          ⟨l.vault.woe.raw - (step.amountOut * (l.vault.tag * l.vault.gap : Wad) : Wad).raw⟩,
          Nat.sub_add_cancel sold, Nat.sub_add_cancel covered, rfl⟩, ?_, ?_, cost, Nat.le_refl _,
          by simp [Approval.protocol]⟩
        · exact congrArg Asset.address (Option.some.inj source)
        · exact congrArg Asset.address (Option.some.inj target)
  · have action : (Action.ofStep contracts step).2 = .take id step.amountOut := by
      simp only [Action.ofStep, terms]
    rw [action]
    exact exists_deal_of_order offers ⟨source, target, admits, output⟩ free terms

/-- What is offered at one market is not withdrawn by a deal at another. -/
theorem Offers.exchange {e : Edge} {action : Action} {caller : Address} {d : Deal}
    (offers : l.Offers e) (filed : Filed l.orders) (deal : l.deal? action = some d)
    (other : action.key? ≠ some e.key) : (l.exchange caller d).Offers e := by
  have tokens : (l.exchange caller d).tokens = l.tokens := by rw [exchange_eq]
  have vault : (l.exchange caller d).vault = d.vault := rfl
  have orders : (l.exchange caller d).orders = d.orders := rfl
  simp only [Offers] at offers ⊢
  rw [tokens, vault, orders]
  cases key : e.key with
  | vault op =>
      simp only [key] at offers ⊢
      rw [← offers]
      cases action with
      | approve spender amount => cases deal
      | join wad => cases deal; rfl
      | exit wad => cases deal; rfl
      | boom wad =>
          obtain ⟨_, _, -, -, rfl⟩ := deal?_boom_eq_some_iff.mp deal
          cases op with
          | join => rfl
          | exit => rfl
          | bust => rfl
          | boom => exact absurd (congrArg some key).symm other
      | bust wad =>
          obtain ⟨_, _, -, -, rfl⟩ := deal?_bust_eq_some_iff.mp deal
          cases op with
          | join => rfl
          | exit => rfl
          | boom => rfl
          | bust => exact absurd (congrArg some key).symm other
      | take id quantity =>
          obtain ⟨-, taken⟩ := deal?_take_eq_some_iff.mp deal
          obtain ⟨_, _, -, -, -, rfl⟩ := takeDeal?_eq_some_iff.mp taken
          rfl
  | order id =>
      simp only [key] at offers ⊢
      obtain ⟨order, found, rest⟩ := offers
      refine ⟨order, ?_, rest⟩
      rcases orders_of_deal? deal with ⟨same, -⟩ | ⟨taken, _, another, _, rfl, listed, settled, -⟩
      · rw [same]
        exact found
      · obtain rfl := filed taken another listed
        have different : id ≠ another.id := by
          rintro rfl
          exact other (congrArg some key).symm
        rw [settled, find?_settle, if_neg different]
        exact found

/-- Every edge of a snapshot is offered by the ledger that it was taken of. -/
theorem offers_of_take {state : MarketState} {strategy : Strategy} {s : Snapshot}
    (distinct : l.tokens.Distinct) (filed : Filed l.orders)
    (taken : Snapshot.take state strategy l.tokens = .ok s) (vault : state.vault = l.vault)
    (orders : state.orders = l.book) : ∀ e ∈ s.graph.edges, l.Offers e := by
  intro e listed
  rcases Snapshot.mem_edges_of_take distinct taken listed with ⟨op, offered⟩ | ⟨order, known, live, edge⟩
  · rw [vault] at offered
    simp only [Offers, Vault.key_of_edge? offered, offered]
  · rw [orders, book, List.mem_mergeSort, List.mem_map] at known
    obtain ⟨⟨id, order⟩, entered, rfl⟩ := known
    have found := Table.find?_of_mem entered
    obtain ⟨_, _, -, -, -, rfl⟩ := Snapshot.orderEdge?_eq_some_iff.mp edge
    refine ⟨order, ?_, live, edge⟩
    rw [filed id order found]
    exact found

end Ledger

end Arbitrage
