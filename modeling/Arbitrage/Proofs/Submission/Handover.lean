import Arbitrage.Proofs.Submission.Submit

/-!
# Who trades with what

In direct mode the keeper trades for itself once its approvals are staged (`approved_staged`). In
batched mode it hands all that it holds of the plan's tokens to the executor, which trades in its
place (`handed`, `approved_handed`) and hands everything back (`apply_batchOf`).
-/

namespace Arbitrage

theorem Ledger.missing_congr {l m : Ledger} {owner : Address} {approvals : List Approval}
    (same : l.allowance = m.allowance) : l.missing owner approvals = m.missing owner approvals := by
  simp only [missing]
  rw [same]

namespace SimulatedChain

variable {c : SimulatedChain} {s : Submitter} {executor : Address}

theorem staged_eq (c : SimulatedChain) (s : Submitter) :
    ∃ allowances, c.staged s = { c.ledger with allowances } :=
  ⟨_, Ledger.approveAll_eq ..⟩

theorem balance_staged (c : SimulatedChain) (s : Submitter) :
    (c.staged s).balance = c.ledger.balance := by
  obtain ⟨_, same⟩ := c.staged_eq s
  rw [same]
  rfl

theorem sameMarket_staged (c : SimulatedChain) (s : Submitter) :
    c.ledger.SameMarket (c.staged s) := by
  obtain ⟨_, same⟩ := c.staged_eq s
  exact ⟨_, _, same⟩

/-- In direct mode the account itself is ready to trade once its approvals are staged. -/
theorem approved_staged (attached : s.Attached c) (mode : s.mode = .direct) :
    (c.staged s).Approved c.account := by
  have own : s.approvals = s.protocol := by
    rw [Submitter.approvals]
    rw [mode]
    rfl
  intro a listed
  obtain ⟨_, same⟩ := c.staged_eq s
  rw [same] at listed
  change a ∈ Approval.protocol c.ledger.tokens c.ledger.contracts at listed
  rw [← attached.protocol, ← own] at listed
  exact Ledger.allowance_of_mem listed

/-- In batched mode the executor may pull all that the account holds. -/
theorem canPull_staged (attached : s.Attached c) (mode : s.mode = .batched executor) {t : Address}
    (small : (c.ledger.balance t c.account).raw < 2 ^ 256)
    (listed : t ∈ c.ledger.tokens.assets.map Asset.address) :
    (c.staged s).CanPull t c.account executor ((c.staged s).balance t c.account) := by
  have own : ⟨t, executor⟩ ∈ s.approvals := by
    rw [Submitter.approvals]
    rw [mode, attached.tokens]
    simpa [Approval.own, Approval.forExecutor, Tokens.assets] using listed
  have raised : (c.staged s).allowance t c.account executor = Approval.allowance :=
    Ledger.allowance_of_mem own
  rw [← c.balance_staged s] at small
  refine ⟨small, ?_, Nat.le_refl _⟩
  rw [raised, Approval.allowance, Word.toNat_max]
  omega

/-- The ledger on which a batch makes the calls of its plan. -/
def handed (c : SimulatedChain) (s : Submitter) (executor : Address) (tokens : List Address) : Ledger :=
  ((c.staged s).sweep c.account executor tokens).approveAll executor
    ((c.staged s).missing executor s.protocol)

theorem sameMarket_handed (c : SimulatedChain) (s : Submitter) (executor : Address)
    (tokens : List Address) : c.ledger.SameMarket (c.handed s executor tokens) := by
  rw [handed]
  obtain ⟨_, same⟩ := c.staged_eq s
  rw [same, Ledger.approveAll_eq, Ledger.sweep_eq]
  exact ⟨_, _, rfl⟩

theorem balance_handed (c : SimulatedChain) (s : Submitter) (executor : Address)
    (tokens : List Address) : (c.handed s executor tokens).balance =
      ((c.staged s).sweep c.account executor tokens).balance := by
  rw [handed]
  rw [Ledger.approveAll_eq]
  rfl

theorem approved_handed (attached : s.Attached c) (tokens : List Address) :
    (c.handed s executor tokens).Approved executor := by
  intro a listed
  obtain ⟨_, _, same⟩ := c.sameMarket_handed s executor tokens
  rw [same] at listed
  change a ∈ Approval.protocol c.ledger.tokens c.ledger.contracts at listed
  rw [← attached.protocol] at listed
  have allowance : (c.staged s).allowance =
      ((c.staged s).sweep c.account executor tokens).allowance := by
    rw [Ledger.sweep_eq]
    rfl
  rw [handed]
  rw [Ledger.missing_congr allowance]
  exact Ledger.allowance_of_mem listed

theorem sound_staged (sound : c.ledger.Sound) (s : Submitter) : (c.staged s).Sound :=
  sound.approveAll ..

theorem sound_handed (sound : c.ledger.Sound) (s : Submitter) (executor : Address)
    (tokens : List Address) : (c.handed s executor tokens).Sound :=
  ((sound_staged sound s).sweep ..).approveAll ..

/-- A batch that can gather what it needs does what its calls do in the hands of the executor. -/
theorem apply_batchOf {plan : Plan} (apart : c.account ≠ executor)
    (can : ∀ t ∈ plan.tokens,
      (c.staged s).CanPull t c.account executor ((c.staged s).balance t c.account)) :
    (c.staged s).apply c.account (c.batchOf s executor plan) =
      ((c.handed s executor plan.tokens).applyAll executor (s.calls plan)).map
        fun m => m.sweep executor c.account plan.tokens :=
  Ledger.apply_batch apart can

end SimulatedChain

end Arbitrage
