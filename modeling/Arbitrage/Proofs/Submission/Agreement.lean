import Arbitrage.Proofs.Submission.Handover
import Arbitrage.Simulation.Scenario

/-!
# Direct and batched submissions agree

One plan submitted in both modes to two copies of a chain comes to the same: either all steps go
through in both, and nobody's holdings, the book, the vault or the shares issued tell which mode it
was, or the direct submission stops at a step that reverts, and the batch is undone.
-/

namespace Arbitrage

namespace Ledger

/-- Two ledgers are the same but for allowances, which the two modes need of different accounts. -/
structure Agrees (l m : Ledger) : Prop where
  balance : ∀ t o, l.balance t o = m.balance t o
  orders : l.orders = m.orders
  vault : l.vault = m.vault
  shares : l.shares = m.shares

variable {l m : Ledger} {trader executor : Address} {tokens : List Address}

theorem exists_apply_of_balance {caller token owner : Address} {call : Call} {amount : Wad}
    (left : (l.apply caller call).map (·.balance token owner) = .ok amount) :
    ∃ m, l.apply caller call = .ok m ∧ m.balance token owner = amount := by
  cases applied : l.apply caller call with
  | error halt => simp [applied, Except.map] at left
  | ok m => exact ⟨m, rfl, by simpa [applied, Except.map] using left⟩

/-- Once the executor has handed back what it holds, the two ledgers agree. -/
theorem Shared.agrees (shared : Shared tokens trader executor l m) (apart : trader ≠ executor) :
    l.Agrees (m.sweep executor trader tokens) := by
  obtain ⟨market, together, nothing, others⟩ := shared
  refine ⟨fun t o => Amount.ext ?_, ?_, ?_, ?_⟩
  · by_cases other : t ∉ tokens ∨ o ≠ trader ∧ o ≠ executor
    · rw [balance_sweep_of_other (other.imp_right And.symm), others t o other]
    · obtain ⟨listed, owner⟩ : t ∈ tokens ∧ (o = trader ∨ o = executor) := by tauto
      have alone := together t listed
      have none := nothing t listed
      rcases owner with rfl | rfl
      · rw [balance_sweep_taker apart.symm listed, alone, Nat.add_comm]
      · rw [balance_sweep_giver apart.symm (.inl listed), none]
  · obtain ⟨_, _, rfl⟩ := market
    rw [sweep_eq]
  · obtain ⟨_, _, rfl⟩ := market
    rw [sweep_eq]
  · obtain ⟨_, _, rfl⟩ := market
    rw [sweep_eq]

end Ledger

namespace SimulatedChain

variable {c : SimulatedChain} {s : Submitter} {executor : Address}

theorem agrees_staged (c : SimulatedChain) (s : Submitter) : c.ledger.Agrees (c.staged s) := by
  obtain ⟨_, same⟩ := c.staged_eq s
  rw [same]
  exact ⟨fun _ _ => rfl, rfl, rfl, rfl⟩

/-- An executor that starts with nothing shares what it has been handed. -/
theorem shared_handed {tokens : List Address} (apart : c.account ≠ executor)
    (empty : ∀ t ∈ tokens, (c.ledger.balance t executor).raw = 0) (sd sb : Submitter) :
    Ledger.Shared tokens c.account executor (c.staged sd) (c.handed sb executor tokens) := by
  have balance := (c.balance_staged sd).trans (c.balance_staged sb).symm
  rw [← c.balance_staged sb] at empty
  refine ⟨?_, ?_, ?_, ?_⟩
  · obtain ⟨_, staged⟩ := c.staged_eq sd
    obtain ⟨_, _, handed⟩ := c.sameMarket_handed sb executor tokens
    rw [staged, handed]
    exact ⟨_, _, rfl⟩
  · intro t listed
    have given := Ledger.balance_sweep_giver (l := c.staged sb) apart (.inl listed)
    have taken := Ledger.balance_sweep_taker (l := c.staged sb) apart listed
    rw [balance, balance_handed, given, taken, empty t listed, Nat.zero_add, Nat.add_zero]
  · intro t listed
    rw [balance]
    exact empty t listed
  · intro t o other
    rw [balance, balance_handed, Ledger.balance_sweep_of_other other]

/-- Direct and batched submission of a plan agree, on a chain whose waits for receipts fail less
often than the submitter tries. Either both succeed, and then nobody's holdings, the book, the vault
or the shares issued differ; or the direct submission stops at a step that reverts, with exactly the
effect of the steps before it, and the batch is undone. -/
theorem submissions_agree {state : MarketState} {strategy : Strategy} {snapshot : Snapshot}
    {base : AssetId} {maxDepth : Nat} {path : Path} {engagement : Wad} {plan : Plan}
    (attached : s.Attached c) (patient : c.Patient s.patience) (sound : c.ledger.Sound)
    (apart : executor ≠ c.account) (small : ∀ t o, (c.ledger.balance t o).raw < 2 ^ 256)
    (empty : ∀ t ∈ plan.tokens, (c.ledger.balance t executor).raw = 0)
    (none : MakesNone c.ledger.orders executor) (vault : state.vault = c.ledger.vault)
    (orders : state.orders = c.ledger.book)
    (taken : Snapshot.take state strategy c.ledger.tokens = .ok snapshot)
    (valid : snapshot.graph.checkCycle base maxDepth path = .ok ())
    (derived : Plan.derive snapshot.graph path engagement = .ok plan) (fits : plan.Fits) :
    ∃ direct batched cd cb,
      c.Yields (({ s with mode := .direct }).submit plan).run direct cd ∧
      c.Yields (({ s with mode := .batched executor }).submit plan).run batched cb ∧
      ((∃ d b, direct = .ok d ∧ batched = .ok b ∧ d.completedSteps = plan.length ∧
          b.completedSteps = plan.length ∧ cd.ledger.Agrees cb.ledger) ∨
        ∃ i hash hash', i < plan.length ∧ direct = .error (.submission (.reverted i hash)) ∧
          batched = .error (.submission (.batchReverted hash')) ∧
          (∃ allowances, ({ c.ledger with allowances } : Ledger).applyAll c.account
            ((s.calls plan).take i) = .ok cd.ledger) ∧
          c.ledger.Agrees cb.ledger) := by
  let sd : Submitter := { s with mode := .direct }
  let sb : Submitter := { s with mode := .batched executor }
  have attached_d : sd.Attached c :=
    ⟨attached.account, attached.tokens, attached.tub, attached.tap, attached.otc⟩
  have attached_b : sb.Attached c :=
    ⟨attached.account, attached.tokens, attached.tub, attached.tap, attached.otc⟩
  obtain ⟨asset, -, nonempty, relay, tradable⟩ :=
    Ledger.relay_of_derive sound taken vault orders valid derived fits
  obtain ⟨_, staged_d⟩ := c.staged_eq sd
  have can : ∀ t ∈ plan.tokens,
      (c.staged sb).CanPull t c.account executor ((c.staged sb).balance t c.account) :=
    fun t listed => canPull_staged attached_b rfl (small t _) (Plan.mem_assets relay listed)
  have handed : ((c.handed sb executor plan.tokens).balance asset.address c.account).raw = 0 := by
    rw [balance_handed]
    exact Ledger.balance_sweep_giver apart.symm (.inl (Plan.first_mem_tokens relay nonempty))
  have none_d : MakesNone (c.staged sd).orders executor := by
    rw [staged_d]
    exact none
  have outcome := Ledger.lockstep_of_relay relay s.contracts (c.sameMarket_staged sd).tokens apart.symm
    (c.shared_handed apart.symm empty sd sb) (sound_staged sound sd) (sound_handed sound sb _ _)
    (approved_staged attached_d rfl) (approved_handed attached_b _)
    ((c.sameMarket_staged sd).tradable tradable) none_d
    (fun step listed => Plan.mem_tokens listed) (.inr handed)
  have batch := apply_batchOf apart.symm can
  rcases outcome with ⟨l, m, applied, applied', shared'⟩ | ⟨i, l, bound, stops, reverted⟩
  · have took : (c.staged sb).apply c.account (c.batchOf sb executor plan) =
        .ok (m.sweep executor c.account plan.tokens) := by
      rw [batch]
      exact congrArg _ applied'
    obtain ⟨d, cd, run_d, -, steps_d, ledger_d, -⟩ :=
      exists_submit_direct_ok (s := sd) (l := l) rfl attached_d.account patient nonempty fits applied
    obtain ⟨b, cb, run_b, -, steps_b, ledger_b, -⟩ :=
      exists_submit_batched_ok (s := sb) rfl attached_b.account patient nonempty fits took
    refine ⟨_, _, cd, cb, run_d, run_b, .inl ⟨d, b, rfl, rfl, steps_d, steps_b, ?_⟩⟩
    rw [ledger_d, ledger_b]
    exact shared'.agrees apart.symm
  · have undone : (c.staged sb).apply c.account (c.batchOf sb executor plan) = .error .reverted := by
      rw [batch]
      exact congrArg _ reverted
    obtain ⟨hash, cd, run_d, ledger_d, -⟩ :=
      exists_submit_direct_stop (s := sd) rfl attached_d.account patient nonempty fits stops
    obtain ⟨hash', cb, run_b, ledger_b, -⟩ :=
      exists_submit_batched_reverted (s := sb) rfl attached_b.account patient nonempty fits undone
    refine ⟨_, _, cd, cb, run_d, run_b, .inr ⟨i, hash, hash', bound, rfl, rfl, ?_, ?_⟩⟩
    · rw [ledger_d]
      obtain ⟨applied, -⟩ := stops
      rw [staged_d] at applied
      exact ⟨_, applied⟩
    · rw [ledger_b]
      exact c.agrees_staged sb

end SimulatedChain

namespace Scenario

/-- What can be traded where an order pays 110 skr for 100 gem and shares are at par. -/
def buyAndExitGraph : Graph where
  assets := tokens.assets.toArray
  edges := #[⟨0, 1, .fixedPrice .join .one .unbounded⟩, ⟨1, 0, .fixedPrice .exit .one .unbounded⟩,
    ⟨0, 1, .order (.ofNat 1) (.ofUnits 110) (.ofUnits 100)⟩]
  leaving := #[[0, 2], [1], []]

/-- The order filled, and what it paid exited. -/
def buyAndExitPlan : Plan where
  path := [2, 1]
  steps := [
    ⟨2, ⟨0, 1, .order (.ofNat 1) (.ofUnits 110) (.ofUnits 100)⟩, ⟨"gem", tokens.gem⟩,
      ⟨"skr", tokens.skr⟩, .ofUnits 100, .ofUnits 110⟩,
    ⟨1, ⟨1, 0, .fixedPrice .exit .one .unbounded⟩, ⟨"skr", tokens.skr⟩, ⟨"gem", tokens.gem⟩,
      .ofUnits 110, .ofUnits 110⟩]
  engagement := .ofUnits 100
  output := .ofUnits 110

/-- What is read of the market by an account that trades gem. -/
def buyAndExitState : MarketState :=
  ⟨1, vault, buyAndExit.chain.ledger.book, .ofUnits 1000⟩

def buyAndExitStrategy : Strategy where
  base := tokens.gem
  minProfit := .ofUnits 5
  maxEngagement := .ofUnits 100

theorem buyAndExit_taken : Snapshot.take buyAndExitState buyAndExitStrategy tokens =
    .ok ⟨1, buyAndExitGraph, 0, .ofUnits 1000⟩ := by decide +kernel

theorem buyAndExit_fits : buyAndExitPlan.Fits := by
  have small : ∀ step ∈ buyAndExitPlan.steps, step.amountIn.raw < 2 ^ 128 ∧
      step.amountOut.raw < 2 ^ 128 := by decide
  intro step listed
  obtain ⟨amountIn, amountOut⟩ := small step listed
  exact ⟨by omega, by omega, fun _ => amountOut⟩

theorem buyAndExit_sound : buyAndExit.chain.ledger.Sound := by
  have filed : ∀ e ∈ buyAndExit.chain.ledger.orders.entries, e.2.id = e.1 := by decide
  refine ⟨⟨by decide, by decide, by decide⟩, ?_, ?_⟩
  · intro id order found
    exact filed _ (Table.mem_of_find? found)
  · show buyAndExit.chain.ledger.accounted ≤ buyAndExit.chain.ledger.shares.raw
    decide

theorem buyAndExit_small (t o : Address) :
    (buyAndExit.chain.ledger.balance t o).raw < 2 ^ 256 :=
  Ledger.raw_balance_lt (by decide) (by decide) t o

theorem buyAndExit_makesNone : MakesNone buyAndExit.chain.ledger.orders executor := by
  have makers : ∀ e ∈ buyAndExit.chain.ledger.orders.entries, e.2.owner ≠ executor := by decide
  intro id order found
  exact makers _ (Table.mem_of_find? found)

def trader (mode : Mode) (patience : Patience) : Submitter :=
  ⟨keeper, tokens, contracts, mode, patience⟩

/-- The same market once every approval is staged, where the next wait for a receipt fails. -/
def lateReceipt : SimulatedChain where
  account := keeper
  ledger := buyAndExit.chain.ledger.approveAll keeper
    (Approval.protocol tokens contracts ++ Approval.forExecutor tokens executor)
  failingReceipts := 1

end Scenario

namespace SimulatedChain

open Scenario

/-- Both submissions of the plan to fill the order and exit go through, and come to the same: the maker
has the hundred gem that the order asked for, the keeper has ten more than before, and the order is off
the book. -/
theorem submissions_agree_buyAndExit :
    (trader .direct .standard).Attached buyAndExit.chain ∧
      buyAndExit.chain.Patient .standard ∧ buyAndExit.chain.ledger.Sound ∧
      executor ≠ buyAndExit.chain.account ∧
      (∀ t o, (buyAndExit.chain.ledger.balance t o).raw < 2 ^ 256) ∧
      (∀ t ∈ buyAndExitPlan.tokens, (buyAndExit.chain.ledger.balance t executor).raw = 0) ∧
      MakesNone buyAndExit.chain.ledger.orders executor ∧
      Snapshot.take buyAndExitState buyAndExitStrategy tokens =
        .ok ⟨1, buyAndExitGraph, 0, .ofUnits 1000⟩ ∧
      buyAndExitGraph.checkCycle 0 3 [2, 1] = .ok () ∧
      Plan.derive buyAndExitGraph [2, 1] (.ofUnits 100) = .ok buyAndExitPlan ∧
      buyAndExitPlan.Fits ∧
      ∃ d b cd cb,
        buyAndExit.chain.Yields ((trader .direct .standard).submit buyAndExitPlan).run (.ok d) cd ∧
        buyAndExit.chain.Yields
          ((trader (.batched executor) .standard).submit buyAndExitPlan).run (.ok b) cb ∧
        d.completedSteps = 2 ∧ b.completedSteps = 2 ∧ cd.ledger.Agrees cb.ledger ∧
        cb.ledger.balance tokens.gem maker = .ofUnits 100 ∧
        cb.ledger.balance tokens.gem keeper = .ofUnits 1010 ∧ cb.ledger.orders.entries = [] := by
  have attached : (trader .direct .standard).Attached buyAndExit.chain := ⟨rfl, rfl, rfl, rfl, rfl⟩
  have patient : buyAndExit.chain.Patient .standard := by unfold Patient; decide
  have apart : executor ≠ buyAndExit.chain.account := by decide
  have empty : ∀ t ∈ buyAndExitPlan.tokens,
      (buyAndExit.chain.ledger.balance t executor).raw = 0 := by decide
  have valid : buyAndExitGraph.checkCycle 0 3 [2, 1] = .ok () := by decide
  have derived : Plan.derive buyAndExitGraph [2, 1] (.ofUnits 100) = .ok buyAndExitPlan := by decide
  refine ⟨attached, patient, buyAndExit_sound, apart, buyAndExit_small, empty, buyAndExit_makesNone,
    buyAndExit_taken, valid, derived, buyAndExit_fits, ?_⟩
  obtain ⟨direct, batched, cd, cb, run_d, run_b, outcome⟩ :=
    submissions_agree attached patient buyAndExit_sound apart buyAndExit_small empty
      buyAndExit_makesNone rfl rfl buyAndExit_taken valid derived buyAndExit_fits
  -- What the direct submission comes to is computed; the batch then has to agree.
  have computed : (((trader .direct .standard).submit buyAndExitPlan).run.run answer
      buyAndExit.chain).map (fun r : Except Failure Submission × SimulatedChain =>
        (r.1.isOk, r.2.ledger.balance tokens.gem maker, r.2.ledger.balance tokens.gem keeper,
          r.2.ledger.orders.entries)) = .ok (true, .ofUnits 100, .ofUnits 1010, []) := by
    decide +kernel
  have through : (direct.isOk, cd.ledger.balance tokens.gem maker, cd.ledger.balance tokens.gem keeper,
      cd.ledger.orders.entries) = (true, .ofUnits 100, .ofUnits 1010, []) := run_d.map_eq computed
  simp only [Prod.mk.injEq] at through
  obtain ⟨succeeded, sold, gained, emptied⟩ := through
  rcases outcome with ⟨d, b, rfl, rfl, steps_d, steps_b, agrees⟩ | ⟨i, hash, hash', -, rfl, -⟩
  · refine ⟨d, b, cd, cb, run_d, run_b, steps_d, steps_b, agrees, ?_, ?_, ?_⟩
    · rw [← agrees.balance, sold]
    · rw [← agrees.balance, gained]
    · rw [← agrees.orders, emptied]
  · cases succeeded

/-- A submitter without patience tells of no step at all, in either mode, although the direct
submission has filled the order and the batch has gone through: a receipt that comes late is taken
for a transaction that had no effect. -/
theorem submissions_disagree_lateReceipt :
    (trader .direct ⟨1, .ofMillis 1⟩).Attached lateReceipt ∧ lateReceipt.ledger.Sound ∧
      executor ≠ lateReceipt.account ∧
      (∀ t o, (lateReceipt.ledger.balance t o).raw < 2 ^ 256) ∧
      (∀ t ∈ buyAndExitPlan.tokens, (lateReceipt.ledger.balance t executor).raw = 0) ∧
      MakesNone lateReceipt.ledger.orders executor ∧
      buyAndExitState.vault = lateReceipt.ledger.vault ∧
      buyAndExitState.orders = lateReceipt.ledger.book ∧
      Snapshot.take buyAndExitState buyAndExitStrategy lateReceipt.ledger.tokens =
        .ok ⟨1, buyAndExitGraph, 0, .ofUnits 1000⟩ ∧
      buyAndExitGraph.checkCycle 0 3 [2, 1] = .ok () ∧
      Plan.derive buyAndExitGraph [2, 1] (.ofUnits 100) = .ok buyAndExitPlan ∧
      buyAndExitPlan.Fits ∧
      ∃ message hash cd cb,
        lateReceipt.Yields ((trader .direct ⟨1, .ofMillis 1⟩).submit buyAndExitPlan).run
          (.error (.submission (.stepFailed 0 0 message))) cd ∧
        lateReceipt.Yields
          ((trader (.batched executor) ⟨1, .ofMillis 1⟩).submit buyAndExitPlan).run
          (.error (.chain (.receiptNotFound hash))) cb ∧
        ¬ lateReceipt.ledger.Agrees cd.ledger ∧ ¬ lateReceipt.ledger.Agrees cb.ledger := by
  let sd := trader .direct ⟨1, .ofMillis 1⟩
  let sb := trader (.batched executor) ⟨1, .ofMillis 1⟩
  have sound : lateReceipt.ledger.Sound := buyAndExit_sound.approveAll ..
  have impatient : ¬ lateReceipt.Patient ⟨1, .ofMillis 1⟩ := by unfold Patient; decide
  have nonempty : buyAndExitPlan.steps ≠ [] := by decide
  have held : lateReceipt.ledger.balance tokens.gem keeper = .ofUnits 1000 := by decide +kernel
  have idle_d : lateReceipt.ledger.missing lateReceipt.account sd.approvals = [] := by decide +kernel
  have idle_b : lateReceipt.ledger.missing lateReceipt.account sb.approvals = [] := by decide +kernel
  have step : (lateReceipt.ledger.apply keeper
      (.single contracts.otc (.take (.ofNat 1) (.ofUnits 110)))).map
        (·.balance tokens.gem keeper) = .ok (.ofUnits 900) := by decide +kernel
  have batch : (lateReceipt.ledger.apply keeper
      (lateReceipt.batchOf sb executor buyAndExitPlan)).map
        (·.balance tokens.gem keeper) = .ok (.ofUnits 1010) := by decide +kernel
  obtain ⟨l, applied, left⟩ := Ledger.exists_apply_of_balance step
  obtain ⟨l', applied', gained⟩ := Ledger.exists_apply_of_balance batch
  obtain ⟨message, cd, run_d, ledger_d⟩ := exists_submit_direct_lost (s := sd) idle_d rfl rfl
    impatient nonempty buyAndExit_fits rfl applied
  obtain ⟨hash, cb, run_b, ledger_b⟩ := exists_submit_batched_lost (s := sb) idle_b rfl rfl
    impatient nonempty buyAndExit_fits applied'
  refine ⟨⟨rfl, rfl, rfl, rfl, rfl⟩, sound, by decide, buyAndExit_small, by decide,
    buyAndExit_makesNone, rfl, rfl, buyAndExit_taken, by decide, by decide, buyAndExit_fits, message,
    hash, cd, cb, run_d, run_b, ?_, ?_⟩
  · intro agrees
    have same := agrees.balance tokens.gem keeper
    rw [ledger_d, left, held] at same
    cases same
  · intro agrees
    have same := agrees.balance tokens.gem keeper
    rw [ledger_b, gained, held] at same
    cases same

end SimulatedChain

end Arbitrage
