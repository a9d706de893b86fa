import Arbitrage.Proofs.Submission.Handover

/-!
# What a submission gains

On a chain where no order reverts, a plan that the ledger offers is submitted to its end in either
mode (`exists_submit_gain`). The keeper gives what goes into the plan and gets at least what comes
out of it, and it has no less of anything else.
-/

namespace Arbitrage

/-- An account gives an input of the base token for an output of it, and loses nothing else. -/
def Ledger.Gains (l l' : Ledger) (account base : Address) (x y : Wad) : Prop :=
  ∀ t, (l.balance t account).raw + (if t = base then y.raw else 0) ≤
    (l'.balance t account).raw + if t = base then x.raw else 0

namespace SimulatedChain

variable {c : SimulatedChain} {s : Submitter} {plan : Plan} {base : Address} {x y : Wad}

theorem exists_applyAll_direct (mode : s.mode = .direct) (attached : s.Attached c)
    (sound : c.ledger.Sound) (free : c.ledger.blocked = [])
    (relay : Relay c.ledger.tokens base x plan.steps base y)
    (tradable : c.ledger.Tradable plan.steps) (held : x ≤ c.ledger.balance base c.account) :
    ∃ l, (c.staged s).applyAll c.account (s.calls plan) = .ok l ∧
      c.ledger.Gains l c.account base x y := by
  have same := c.sameMarket_staged s
  rw [← c.balance_staged s] at held
  obtain ⟨l, applied, gained, -⟩ := Ledger.applyAll_of_relay relay s.contracts
    same.tokens (sound_staged sound s) (approved_staged attached mode)
    (same.tradable tradable) (same.not_blocks free) held
  rw [c.balance_staged s] at gained
  exact ⟨l, applied, gained⟩

/-- In batched mode the executor trades the plan with what it has been handed, and hands back what
it holds then. -/
theorem exists_apply_batched {executor : Address} (mode : s.mode = .batched executor)
    (attached : s.Attached c) (sound : c.ledger.Sound) (free : c.ledger.blocked = [])
    (apart : c.account ≠ executor) (small : ∀ t, (c.ledger.balance t c.account).raw < 2 ^ 256)
    (nonempty : plan.steps ≠ []) (relay : Relay c.ledger.tokens base x plan.steps base y)
    (tradable : c.ledger.Tradable plan.steps) (held : x ≤ c.ledger.balance base c.account) :
    ∃ l, (c.staged s).apply c.account (c.batchOf s executor plan) = .ok l ∧
      c.ledger.Gains l c.account base x y := by
  have same := c.sameMarket_handed s executor plan.tokens
  have touched := Plan.first_mem_tokens relay nonempty
  have swept : ∀ t ∈ plan.tokens, ((c.handed s executor plan.tokens).balance t executor).raw =
      (c.ledger.balance t c.account).raw + (c.ledger.balance t executor).raw := by
    intro t listed
    rw [balance_handed, Ledger.balance_sweep_taker apart listed, balance_staged]
  obtain ⟨m, applied, gained, kept⟩ := Ledger.applyAll_of_relay relay s.contracts
    same.tokens (sound_handed sound s executor _)
    (approved_handed attached _) (same.tradable tradable) (same.not_blocks free)
    (by rw [Amount.le_def] at held ⊢; rw [swept base touched]; omega)
  have can : ∀ t ∈ plan.tokens,
      (c.staged s).CanPull t c.account executor ((c.staged s).balance t c.account) := by
    intro t listed
    exact canPull_staged attached mode (small t) (Plan.mem_assets relay listed)
  refine ⟨m.sweep executor c.account plan.tokens, ?_, ?_⟩
  · rw [apply_batchOf apart can]
    exact congrArg _ applied
  · intro t
    by_cases listed : t ∈ plan.tokens
    · have through := gained t
      rw [swept t listed] at through
      rw [Ledger.balance_sweep_taker apart.symm listed]
      omega
    · have other : t ≠ base := fun h => listed (h ▸ touched)
      have through := kept t c.account apart
      rw [balance_handed, Ledger.balance_sweep_of_other (.inl listed), balance_staged] at through
      rw [Ledger.balance_sweep_of_other (.inl listed), if_neg other, if_neg other]
      exact through

/-- A plan that the ledger offers is submitted to its end, in either mode. -/
theorem exists_submit_gain (attached : s.Attached c) (patient : c.Patient s.patience)
    (sound : c.ledger.Sound) (free : c.ledger.blocked = [])
    (apart : ∀ executor, s.mode = .batched executor → executor ≠ c.account)
    (small : ∀ t, (c.ledger.balance t c.account).raw < 2 ^ 256) (nonempty : plan.steps ≠ [])
    (fits : plan.Fits) (relay : Relay c.ledger.tokens base x plan.steps base y)
    (tradable : c.ledger.Tradable plan.steps) (held : x ≤ c.ledger.balance base c.account) :
    ∃ submission c', c.Yields (s.submit plan).run (.ok submission) c' ∧
      submission.mode = s.mode ∧ submission.completedSteps = plan.length ∧
      c.ledger.Gains c'.ledger c.account base x y := by
  cases mode : s.mode with
  | direct =>
      obtain ⟨l, applied, gained⟩ :=
        exists_applyAll_direct mode attached sound free relay tradable held
      obtain ⟨submission, c', run, submitted, steps, rfl, -⟩ :=
        exists_submit_direct_ok mode attached.account patient nonempty fits applied
      exact ⟨submission, c', run, submitted, steps, gained⟩
  | batched executor =>
      obtain ⟨l, applied, gained⟩ := exists_apply_batched mode attached sound free
        (apart executor mode).symm small nonempty relay tradable held
      obtain ⟨submission, c', run, submitted, steps, rfl, -⟩ :=
        exists_submit_batched_ok mode attached.account patient nonempty fits applied
      exact ⟨submission, c', run, submitted, steps, gained⟩

end SimulatedChain

end Arbitrage
