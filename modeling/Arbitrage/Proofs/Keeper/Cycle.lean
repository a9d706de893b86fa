import Arbitrage.Keeper.Cycle
import Arbitrage.Proofs.Cycle.Search
import Arbitrage.Proofs.Cycle.Selection
import Arbitrage.Proofs.Submission.Agreement
import Arbitrage.Proofs.Submission.Gain

/-!
# The work on one block of a simulated chain

The keeper reads the market, and what it reads decides its choice (`Keeper.choice?`). Without a
choice nothing is sent. A plan that it chooses can be carried out at the contracts' own prices: the
submission goes through and gains at least the profit that was reported
(`processBlock_executed`).
-/

namespace Arbitrage

namespace Keeper

variable {k : Keeper} {state : MarketState} {plan : Plan}

/-- What the keeper makes of a snapshot: every cycle at the base asset, sized and compared. -/
def evaluation (k : Keeper) (snapshot : Snapshot) : Evaluation :=
  (Sizing.ofSnapshot k.strategy snapshot).evaluate snapshot.graph
    (snapshot.graph.cycles snapshot.base k.strategy.maxDepth)

/-- The plan that the keeper chooses from what it has read, if any. -/
def choice? (k : Keeper) (state : MarketState) : Option Plan :=
  match Snapshot.take state k.strategy k.tokens with
  | .ok snapshot => (k.evaluation snapshot).best
  | .error _ => none

theorem choice?_eq_some_iff : k.choice? state = some plan ↔
    ∃ snapshot, Snapshot.take state k.strategy k.tokens = .ok snapshot ∧
      (k.evaluation snapshot).best = some plan := by
  rw [choice?]
  cases Snapshot.take state k.strategy k.tokens <;> simp

/-- A plan that is chosen was derived along a cycle of the snapshot, for an input that is held, and
gains enough. -/
theorem exists_derive_of_choice? (chosen : k.choice? state = some plan) :
    ∃ snapshot path, Snapshot.take state k.strategy k.tokens = .ok snapshot ∧
      snapshot.graph.checkCycle snapshot.base k.strategy.maxDepth path = .ok () ∧
      Plan.derive snapshot.graph path plan.engagement = .ok plan ∧
      plan.engagement ≤ state.balance ∧ 0 < plan.profit.raw ∧ k.strategy.minProfit ≤ plan.profit ∧
      plan.engagement.raw + plan.profit.raw = plan.output.raw := by
  obtain ⟨snapshot, taken, best⟩ := choice?_eq_some_iff.mp chosen
  obtain ⟨path, listed, sized⟩ := Sizing.exists_size_of_best best
  obtain ⟨derived, within, gains, enough, profit⟩ := Sizing.size_eq_ok sized
  obtain ⟨_, _, _, -, -, -, -, graph, balance⟩ := Snapshot.take_eq_ok taken
  have wf := (Graph.Built.of_build (Snapshot.tokenGraph_eq_ok_iff.mp graph)).wellFormed
  have held := (Sizing.le_cap_make_iff.mp within).2
  rw [balance] at held
  exact ⟨snapshot, path, taken, ((Graph.mem_cycles_iff wf).mp listed).1, derived, held, gains,
    enough, profit⟩

end Keeper

namespace SimulatedChain

variable {c c' : SimulatedChain} {k : Keeper} {block : Nat} {plan : Plan}

/-- What the keeper reads for a block from a simulated chain on which no reading fails. -/
def market (c : SimulatedChain) (block : Nat) (base : Address) : MarketState :=
  ⟨block, c.ledger.vault, c.ledger.book, c.ledger.balance base c.account⟩

theorem yields_market (calm : c.failingReads = 0) (block : Nat) (base : Address) :
    c.Yields (World.market block c.account base).run (.ok (c.market block base)) c :=
  (c.yields_vault calm).attempt (c.yields_orders.attempt ((c.yields_balance base c.account).attempt
    (yields_ok c _)))

/-- On a chain that answers, what comes of a block is decided by the snapshot. -/
theorem yields_snapshot {snapshot : Snapshot} (calm : c.failingReads = 0)
    (account : k.account = c.account)
    (taken : Snapshot.take (c.market block k.strategy.base) k.strategy k.tokens = .ok snapshot) :
    c.Yields (k.snapshot block).run (.ok (.ok snapshot)) c := by
  have read := (c.yields_market calm block k.strategy.base).persist k.patience "snapshot"
  rw [← account] at read
  refine read.bind ?_
  simp only [Keeper.takeSnapshot]
  simp only [taken]
  exact (c.yields_record _).lift.attempt (yields_ok c _)

theorem yields_processBlock {outcome : Except Failure Outcome}
    (run : c.Yields (k.cycle block).run outcome c') :
    c.Yields (k.processBlock block) (outcome, { k with last := some block }) c' :=
  run.bind ((c'.yields_enter _).bind (yields_pure c' _))

section Trade

variable {snapshot : Snapshot}

theorem yields_enumerate (c : SimulatedChain) (k : Keeper) (snapshot : Snapshot) :
    c.Yields (k.enumerate snapshot) (snapshot.graph.cycles snapshot.base k.strategy.maxDepth) c :=
  (c.yields_record _).bind (yields_pure c _)

theorem yields_reportRejection (c : SimulatedChain) (block : Nat) (snapshot : Snapshot)
    (evaluation : Evaluation) :
    c.Yields (Keeper.reportRejection block snapshot evaluation) () c := by
  rw [Keeper.reportRejection]
  split
  · exact c.yields_record _
  · split <;> exact c.yields_record _

/-- A snapshot without a plan to its name is left at that. -/
theorem yields_trade_none (best : (k.evaluation snapshot).best = none) :
    c.Yields (k.trade block snapshot) (.noOpportunity (k.evaluation snapshot).candidates
      (k.evaluation snapshot).bestRejected) c := by
  refine (c.yields_enter _).bind ((c.yields_enumerate k snapshot).bind ((c.yields_enter _).bind ?_))
  dsimp only
  split
  · exact (c.yields_reportRejection block snapshot _).bind (yields_pure c _)
  · next other => exact nomatch best.symm.trans other

theorem yields_trade_some {submission : Submission}
    (best : (k.evaluation snapshot).best = some plan)
    (submitted : c.Yields (k.submitter.submit plan).run (.ok submission) c') :
    c.Yields (k.trade block snapshot) (.executed (plan.report block) submission) c' := by
  refine (c.yields_enter _).bind ((c.yields_enumerate k snapshot).bind ((c.yields_enter _).bind ?_))
  dsimp only
  split
  · next none => exact nomatch best.symm.trans none
  · next other =>
      obtain rfl := Option.some.inj (best.symm.trans other)
      refine (c.yields_record _).bind ((c.yields_enter _).bind (submitted.bind ?_))
      exact (c'.yields_enter _).bind ((c'.yields_record _).bind ((c'.yields_record _).bind
        (yields_pure c' _)))

theorem yields_cycle {outcome : Outcome} (calm : c.failingReads = 0)
    (account : k.account = c.account)
    (taken : Snapshot.take (c.market block k.strategy.base) k.strategy k.tokens = .ok snapshot)
    (traded : c.Yields (k.trade block snapshot) outcome c') :
    c.Yields (k.cycle block).run (.ok outcome) c' :=
  (c.yields_enter _).lift.attempt ((yields_snapshot calm account taken).attempt traded.lift)

/-- A market that cannot be turned into a snapshot ends the work on the block. -/
theorem exists_cycle_of_error {e : MarketError} (calm : c.failingReads = 0)
    (account : k.account = c.account)
    (failed : Snapshot.take (c.market block k.strategy.base) k.strategy k.tokens = .error e) :
    ∃ outcome, c.Yields (k.cycle block).run outcome c ∧
      outcome = if e = .staleFeed then .ok (.skipped .staleFeed) else .error (.market e) := by
  have read := (c.yields_market calm block k.strategy.base).persist k.patience "snapshot"
  rw [← account] at read
  by_cases stale : e = .staleFeed
  · subst stale
    refine ⟨_, ?_, (if_pos rfl).symm⟩
    have skipped : c.Yields (k.snapshot block).run (.ok (.error .staleFeed)) c := by
      refine read.bind ?_
      simp only [Keeper.takeSnapshot]
      simp only [failed]
      exact (c.yields_record _).lift.attempt (yields_ok c _)
    exact (c.yields_enter _).lift.attempt (skipped.attempt (yields_ok c _))
  · refine ⟨_, ?_, (if_neg stale).symm⟩
    have thrown : c.Yields (k.snapshot block).run (.error (.market e)) c := by
      refine read.bind ?_
      simp only [Keeper.takeSnapshot]
      simp only [failed]
      exact yields_throw c _
    exact (c.yields_enter _).lift.attempt thrown.attempt_error

end Trade

/-- Without a choice the keeper submits nothing and leaves the chain as it is. -/
theorem exists_processBlock_rest (calm : c.failingReads = 0) (account : k.account = c.account)
    (none : k.choice? (c.market block k.strategy.base) = none) :
    ∃ outcome, c.Yields (k.processBlock block) (outcome, { k with last := some block }) c ∧
      ∀ report, (∀ submission, outcome ≠ .ok (.executed report submission)) ∧
        ∀ reason, outcome ≠ .ok (.failed report reason) := by
  unfold Keeper.choice? at none
  cases taken : Snapshot.take (c.market block k.strategy.base) k.strategy k.tokens with
  | error e =>
      obtain ⟨outcome, run, rfl⟩ := exists_cycle_of_error calm account taken
      refine ⟨_, yields_processBlock run, ?_⟩
      intro report
      split <;> exact ⟨nofun, nofun⟩
  | ok snapshot =>
      simp only [taken] at none
      have run := yields_cycle calm account taken (yields_trade_none none)
      exact ⟨_, yields_processBlock run, fun report => ⟨nofun, nofun⟩⟩

/-- A plan that the keeper chooses can be carried out. On a sound ledger where reads, receipts and
orders do not fail, in either mode, the submission of every choice whose amounts fit is executed;
the keeper holds at least the reported profit more of the base asset, which is positive and no less
than the least profit worth trading for, and it holds no less of any other token. -/
theorem processBlock_executed (attached : k.submitter.Attached c) (tokens : k.tokens = c.ledger.tokens)
    (sound : c.ledger.Sound) (calm : c.failingReads = 0) (prompt : c.failingReceipts = 0)
    (free : c.ledger.blocked = [])
    (apart : ∀ executor, k.submitter.mode = .batched executor → executor ≠ c.account)
    (small : ∀ t, (c.ledger.balance t c.account).raw < 2 ^ 256)
    (chosen : k.choice? (c.market block k.strategy.base) = some plan) (fits : plan.Fits) :
    ∃ submission c',
      c.Yields (k.processBlock block)
        (.ok (.executed (plan.report block) submission), { k with last := some block }) c' ∧
      submission.mode = k.submitter.mode ∧ submission.completedSteps = plan.length ∧
      0 < (plan.report block).profit.raw ∧ k.strategy.minProfit ≤ (plan.report block).profit ∧
      (c.ledger.balance k.strategy.base c.account).raw + (plan.report block).profit.raw ≤
        (c'.ledger.balance k.strategy.base c.account).raw ∧
      ∀ t, t ≠ k.strategy.base → c.ledger.balance t c.account ≤ c'.ledger.balance t c.account := by
  obtain ⟨snapshot, path, taken, valid, derived, held, gains, enough, profit⟩ :=
    Keeper.exists_derive_of_choice? chosen
  obtain ⟨best_snapshot, best_taken, best⟩ := Keeper.choice?_eq_some_iff.mp chosen
  obtain rfl := Except.ok.inj (taken.symm.trans best_taken)
  have seen := taken
  rw [tokens] at seen
  obtain ⟨asset, listed, nonempty, relay, tradable⟩ :=
    Ledger.relay_of_derive sound seen rfl rfl valid derived fits
  have base : asset.address = k.strategy.base :=
    Snapshot.address_of_base sound.distinct seen listed
  rw [base] at relay
  have patient : c.Patient k.submitter.patience := by
    rw [Patient]
    omega
  obtain ⟨submission, c', submitted, mode, steps, gained⟩ :=
    exists_submit_gain attached patient sound free apart small nonempty fits relay tradable held
  have run := yields_cycle calm attached.account taken (yields_trade_some best submitted)
  refine ⟨submission, c', yields_processBlock run, mode, steps, gains, enough, ?_, ?_⟩
  · have more := gained k.strategy.base
    rw [if_pos rfl, if_pos rfl, ← profit] at more
    change _ + plan.profit.raw ≤ _
    omega
  · intro t other
    have kept := gained t
    rw [if_neg other, if_neg other] at kept
    exact kept

open Scenario

/-- A keeper of gem that trades through the batch executor, with the patience that is standard. -/
def gemKeeper : Keeper where
  submitter := trader (.batched executor) .standard
  strategy := buyAndExitStrategy
  tokens := Scenario.tokens
  patience := .standard

/-- It fills the order of 110 skr for 100 gem, exits, and has ten gem more. -/
theorem processBlock_executed_buyAndExit :
    gemKeeper.submitter.Attached buyAndExit.chain ∧ buyAndExit.chain.ledger.Sound ∧
      (∀ executor, gemKeeper.submitter.mode = .batched executor →
        executor ≠ buyAndExit.chain.account) ∧
      (∀ t, (buyAndExit.chain.ledger.balance t buyAndExit.chain.account).raw < 2 ^ 256) ∧
      gemKeeper.choice? (buyAndExit.chain.market 1 Scenario.tokens.gem) = some buyAndExitPlan ∧
      buyAndExitPlan.Fits ∧
      ∃ submission c',
        buyAndExit.chain.Yields (gemKeeper.processBlock 1)
          (.ok (.executed (buyAndExitPlan.report 1) submission), { gemKeeper with last := some 1 }) c' ∧
        Amount.ofUnits 1010 ≤ c'.ledger.balance Scenario.tokens.gem keeper := by
  have attached : gemKeeper.submitter.Attached buyAndExit.chain := ⟨rfl, rfl, rfl, rfl, rfl⟩
  have apart : ∀ executor, gemKeeper.submitter.mode = .batched executor →
      executor ≠ buyAndExit.chain.account := by
    rintro _ ⟨⟩
    decide
  have small : ∀ t, (buyAndExit.chain.ledger.balance t buyAndExit.chain.account).raw < 2 ^ 256 :=
    fun t => buyAndExit_small t _
  have chosen : gemKeeper.choice? (buyAndExit.chain.market 1 Scenario.tokens.gem) =
      some buyAndExitPlan := by decide +kernel
  obtain ⟨submission, c', run, -, -, -, -, gained, -⟩ := processBlock_executed attached rfl
    buyAndExit_sound rfl rfl rfl apart small chosen buyAndExit_fits
  have held : buyAndExit.chain.ledger.balance Scenario.tokens.gem keeper = .ofUnits 1000 := by decide
  refine ⟨attached, buyAndExit_sound, apart, small, chosen, buyAndExit_fits, submission, c', run, ?_⟩
  change (buyAndExit.chain.ledger.balance Scenario.tokens.gem keeper).raw + _ ≤
    (c'.ledger.balance Scenario.tokens.gem keeper).raw at gained
  rw [held] at gained
  exact gained

end SimulatedChain

end Arbitrage
