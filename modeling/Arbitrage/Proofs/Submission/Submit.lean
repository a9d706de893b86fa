import Arbitrage.Proofs.Simulation.Lockstep
import Arbitrage.Proofs.Submission.Staging

/-!
# Submitting on a simulated chain

What a submission comes to is decided by what its calls do on the ledger once the keeper's own
approvals are staged (`staged`). In direct mode the steps go through up to the first that reverts;
in batched mode the batch takes effect or does not. Each of the four outcomes is one lemma.
-/

namespace Arbitrage.SimulatedChain

variable {c : SimulatedChain} {s : Submitter} {plan : Plan} {calls : List Call} {l : Ledger}

/-- The ledger once the approvals that the keeper itself needs are staged. -/
def staged (c : SimulatedChain) (s : Submitter) : Ledger :=
  c.ledger.approveAll c.account (c.ledger.missing c.account s.approvals)

theorem exists_sendStep_ok {call : Call} (encodable : call.Encodable)
    (patient : c.Patient s.patience) (applied : c.ledger.apply c.account call = .ok l)
    (step : Nat) :
    ∃ receipt c', c.Yields (s.sendStep step call).run (.ok receipt) c' ∧ c'.ledger = l ∧
      c.Follows c' := by
  obtain ⟨data, encoded⟩ := encodable
  obtain ⟨receipt, c', confirmed, success, ledger, -, follows⟩ :=
    exists_confirm_ok encoded patient applied
  refine ⟨receipt, c', confirmed.bind ?_, ledger, follows⟩
  simp only [success, if_true]
  exact (c'.yields_record _).bind (yields_pure c' _)

theorem exists_sendStep_reverted {call : Call} (encodable : call.Encodable)
    (patient : c.Patient s.patience)
    (applied : c.ledger.apply c.account call = .error .reverted) (step : Nat) :
    ∃ hash c', c.Yields (s.sendStep step call).run (.error (.submission (.reverted step hash))) c' ∧
      c'.ledger = c.ledger ∧ c.Follows c' := by
  obtain ⟨data, encoded⟩ := encodable
  obtain ⟨receipt, c', confirmed, success, ledger, follows⟩ :=
    exists_confirm_reverted encoded patient applied
  refine ⟨receipt.hash, c', confirmed.bind ?_, ledger, follows⟩
  simp only [success, Bool.false_eq_true, if_false]
  exact (c'.yields_record _).bind (yields_pure c' _)

/-- A step whose receipt is given up ends the submission too, but it has taken effect. -/
theorem exists_sendStep_lost {call : Call} (encodable : call.Encodable)
    (impatient : ¬ c.Patient s.patience) (applied : c.ledger.apply c.account call = .ok l)
    (step : Nat) :
    ∃ message c', c.Yields (s.sendStep step call).run
      (.error (.submission (.stepFailed step step message))) c' ∧ c'.ledger = l := by
  obtain ⟨data, encoded⟩ := encodable
  obtain ⟨hash, c', confirmed, ledger⟩ := exists_confirm_lost encoded impatient applied
  exact ⟨_, c', confirmed.bind ((c'.yields_record _).bind (yields_pure c' _)), ledger⟩

theorem exists_sendSteps_ok (encodable : ∀ call ∈ calls, call.Encodable)
    (patient : c.Patient s.patience) (applied : c.ledger.applyAll c.account calls = .ok l)
    (step : Nat) :
    ∃ receipts c', c.Yields (s.sendSteps step calls).run (.ok receipts) c' ∧
      receipts.length = calls.length ∧ c'.ledger = l ∧ c.Follows c' := by
  induction calls generalizing c step with
  | nil =>
      rw [Ledger.applyAll] at applied
      cases applied
      exact ⟨[], c, yields_ok c _, rfl, rfl, .refl c⟩
  | cons call calls ih =>
      rw [Ledger.applyAll_cons] at applied
      cases first : c.ledger.apply c.account call with
      | error halt =>
          rw [first] at applied
          cases applied
      | ok l₁ =>
          rw [first] at applied
          obtain ⟨receipt, c₁, one, ledger, follows⟩ :=
            exists_sendStep_ok (encodable call List.mem_cons_self) patient first step
          obtain ⟨receipts, c', sent, length, ledger', follows'⟩ :=
            ih (c := c₁) (fun call h => encodable call (List.mem_cons_of_mem _ h))
              (follows.patient patient) (by rw [ledger, follows.account]; exact applied) (step + 1)
          exact ⟨receipt :: receipts, c', one.attempt (sent.attempt (yields_ok c' _)),
            by simp [length], ledger', follows.trans follows'⟩

theorem exists_sendSteps_stop {i : Nat} {l' : Ledger} (encodable : ∀ call ∈ calls, call.Encodable)
    (patient : c.Patient s.patience) (stops : c.ledger.StopsAt c.account calls i l') (step : Nat) :
    ∃ hash c', c.Yields (s.sendSteps step calls).run
      (.error (.submission (.reverted (step + i) hash))) c' ∧ c'.ledger = l' ∧ c.Follows c' := by
  induction calls generalizing c step i with
  | nil =>
      obtain ⟨-, call, listed, -⟩ := stops
      cases listed
  | cons call calls ih =>
      cases i with
      | zero =>
          obtain ⟨none, next, same, reverts⟩ := stops
          rw [List.take_zero, Ledger.applyAll] at none
          cases none
          cases same
          obtain ⟨hash, c', one, ledger, follows⟩ :=
            exists_sendStep_reverted (encodable call List.mem_cons_self) patient reverts step
          exact ⟨hash, c', one.attempt_error, ledger, follows⟩
      | succ i =>
          obtain ⟨applied, next, same, reverts⟩ := stops
          rw [List.take_succ_cons, Ledger.applyAll_cons] at applied
          cases first : c.ledger.apply c.account call with
          | error halt =>
              rw [first] at applied
              cases applied
          | ok l₁ =>
              rw [first] at applied
              obtain ⟨receipt, c₁, one, ledger, follows⟩ :=
                exists_sendStep_ok (encodable call List.mem_cons_self) patient first step
              have later : c₁.ledger.StopsAt c₁.account calls i l' := by
                rw [ledger, follows.account]
                exact ⟨applied, next, same, reverts⟩
              obtain ⟨hash, c', sent, ledger', follows'⟩ :=
                ih (c := c₁) (fun call h => encodable call (List.mem_cons_of_mem _ h))
                  (follows.patient patient) later (step + 1)
              rw [Nat.add_right_comm] at sent
              exact ⟨hash, c', one.attempt sent.attempt_error, ledger', follows.trans follows'⟩

section Submit

variable {executor : Address}

/-- The batch that a submission sends: the approvals that the executor lacks, and behind them the
calls of the plan. -/
def batchOf (c : SimulatedChain) (s : Submitter) (executor : Address) (plan : Plan) : Call :=
  .batch executor plan.tokens
    (((c.staged s).missing executor s.protocol).map Approval.call ++ s.calls plan)

/-- Before anything of a plan is sent, its calls are checked and the own approvals are staged. -/
theorem exists_staged (account : s.account = c.account) (patient : c.Patient s.patience) :
    ∃ staging c', c.Yields (persist s.patience "submit" s.stageOwn).run (.ok staging) c' ∧
      c'.ledger = c.staged s ∧ c.Follows c' := by
  obtain ⟨c', run, ledger, -, follows⟩ := exists_stageOwn account patient
  exact ⟨_, c', run.persist _ _, ledger, follows⟩

theorem yields_check (c : SimulatedChain) (nonempty : plan.steps ≠ []) (fits : plan.Fits) :
    c.Yields (liftM (s.check plan) : Attempt Unit).run (.ok ()) c := by
  rw [s.check_eq_ok nonempty fits]
  rfl

theorem exists_submit_direct_ok (mode : s.mode = .direct) (account : s.account = c.account)
    (patient : c.Patient s.patience) (nonempty : plan.steps ≠ []) (fits : plan.Fits)
    (applied : (c.staged s).applyAll c.account (s.calls plan) = .ok l) :
    ∃ submission c', c.Yields (s.submit plan).run (.ok submission) c' ∧
      submission.mode = .direct ∧ submission.completedSteps = plan.length ∧ c'.ledger = l ∧
      c.Follows c' := by
  obtain ⟨staging, c₁, stagedRun, ledger, follows⟩ := exists_staged account patient
  obtain ⟨receipts, c', sent, length, ledger', follows'⟩ :=
    exists_sendSteps_ok (s := s) (l := l) (s.encodable_calls fits) (follows.patient patient)
      (by rw [ledger, follows.account]; exact applied) 0
  refine ⟨⟨.direct, receipts, receipts.length⟩, c', ?_, rfl, ?_, ledger', follows.trans follows'⟩
  · rw [Submitter.submit]
    rw [mode]
    exact (c.yields_check nonempty fits).attempt
      (stagedRun.attempt (sent.attempt (yields_ok c' _)))
  · simpa [Submitter.calls, Plan.length] using length

theorem exists_submit_direct_stop {i : Nat} {l' : Ledger} (mode : s.mode = .direct)
    (account : s.account = c.account) (patient : c.Patient s.patience)
    (nonempty : plan.steps ≠ []) (fits : plan.Fits)
    (stops : (c.staged s).StopsAt c.account (s.calls plan) i l') :
    ∃ hash c', c.Yields (s.submit plan).run (.error (.submission (.reverted i hash))) c' ∧
      c'.ledger = l' ∧ c.Follows c' := by
  obtain ⟨staging, c₁, stagedRun, ledger, follows⟩ := exists_staged account patient
  obtain ⟨hash, c', sent, ledger', follows'⟩ :=
    exists_sendSteps_stop (s.encodable_calls fits) (follows.patient patient)
      (show c₁.ledger.StopsAt c₁.account (s.calls plan) i l' by
        rw [ledger, follows.account]; exact stops) 0
  rw [Nat.zero_add] at sent
  refine ⟨hash, c', ?_, ledger', follows.trans follows'⟩
  rw [Submitter.submit]
  rw [mode]
  exact (c.yields_check nonempty fits).attempt (stagedRun.attempt sent.attempt_error)

theorem encodable_batchOf (c : SimulatedChain) (s : Submitter) (executor : Address)
    (fits : plan.Fits) : (c.batchOf s executor plan).Encodable := by
  rw [batchOf, Call.encodable_batch_iff]
  intro call listed
  rcases List.mem_append.mp listed with approval | step
  · obtain ⟨a, -, rfl⟩ := List.mem_map.mp approval
    exact Call.encodable_approval a
  · exact s.encodable_calls fits call step

/-- Up to sending the batch, a batched submission is the same whatever comes of it. -/
theorem yields_submit_batched {c₁ c' : SimulatedChain} {staging : Staging}
    {result : Except Failure Receipt} (mode : s.mode = .batched executor)
    (nonempty : plan.steps ≠ []) (fits : plan.Fits)
    (stagedRun : c.Yields (persist s.patience "submit" s.stageOwn).run (.ok staging) c₁)
    (ledger : c₁.ledger = c.staged s)
    (sent : c₁.Yields (s.sendBatch executor plan.tokens
      (((c.staged s).missing executor s.protocol).map Approval.call ++ s.calls plan)).run result c') :
    c.Yields (s.submit plan).run
      (result.map fun receipt => ⟨.batched executor, [receipt], plan.length⟩) c' := by
  have read := (yields_missingDownstream (c := c₁) mode).persist s.patience "submit"
  rw [ledger] at read
  rw [Submitter.submit]
  rw [mode]
  refine (c.yields_check nonempty fits).attempt (stagedRun.attempt (read.attempt ?_))
  have last : c₁.Yields (s.sendBatch executor plan.tokens
      (((c.staged s).missing executor s.protocol).map Approval.call ++ s.calls plan) >>=
        fun receipt => (pure ⟨.batched executor, [receipt], plan.length⟩ : Attempt Submission)).run
      (result.map fun receipt => ⟨.batched executor, [receipt], plan.length⟩) c' := by
    cases result with
    | ok receipt => exact sent.attempt (yields_ok c' _)
    | error e => exact sent.attempt_error
  split
  · exact last
  · exact (c₁.yields_record _).lift.attempt last

theorem exists_submit_batched_ok (mode : s.mode = .batched executor)
    (account : s.account = c.account) (patient : c.Patient s.patience)
    (nonempty : plan.steps ≠ []) (fits : plan.Fits)
    (applied : (c.staged s).apply c.account (c.batchOf s executor plan) = .ok l) :
    ∃ submission c', c.Yields (s.submit plan).run (.ok submission) c' ∧
      submission.mode = .batched executor ∧ submission.completedSteps = plan.length ∧
      c'.ledger = l ∧ c.Follows c' := by
  obtain ⟨staging, c₁, stagedRun, ledger, follows⟩ := exists_staged account patient
  obtain ⟨data, encoded⟩ := c.encodable_batchOf s executor fits
  rw [← ledger, ← follows.account] at applied
  obtain ⟨receipt, c', confirmed, success, ledger', -, follows'⟩ :=
    exists_confirm_ok encoded (follows.patient patient) applied
  have sent : c₁.Yields (s.sendBatch executor plan.tokens
      (((c.staged s).missing executor s.protocol).map Approval.call ++ s.calls plan)).run
      (.ok receipt) c' := by
    refine confirmed.attempt ?_
    simp only [success, if_true]
    exact (c'.yields_record _).lift.attempt (yields_ok c' _)
  exact ⟨_, c', yields_submit_batched mode nonempty fits stagedRun ledger sent, rfl, rfl, ledger',
    follows.trans follows'⟩

theorem exists_submit_batched_reverted (mode : s.mode = .batched executor)
    (account : s.account = c.account) (patient : c.Patient s.patience)
    (nonempty : plan.steps ≠ []) (fits : plan.Fits)
    (applied : (c.staged s).apply c.account (c.batchOf s executor plan) = .error .reverted) :
    ∃ hash c', c.Yields (s.submit plan).run (.error (.submission (.batchReverted hash))) c' ∧
      c'.ledger = c.staged s ∧ c.Follows c' := by
  obtain ⟨staging, c₁, stagedRun, ledger, follows⟩ := exists_staged account patient
  obtain ⟨data, encoded⟩ := c.encodable_batchOf s executor fits
  rw [← ledger, ← follows.account] at applied
  obtain ⟨receipt, c', confirmed, success, ledger', follows'⟩ :=
    exists_confirm_reverted encoded (follows.patient patient) applied
  have sent : c₁.Yields (s.sendBatch executor plan.tokens
      (((c.staged s).missing executor s.protocol).map Approval.call ++ s.calls plan)).run
      (.error (.submission (.batchReverted receipt.hash))) c' := by
    refine confirmed.attempt ?_
    simp only [success, Bool.false_eq_true, if_false]
    exact (c'.yields_record _).lift.attempt (yields_throw c' _)
  exact ⟨receipt.hash, c', yields_submit_batched mode nonempty fits stagedRun ledger sent,
    ledger'.trans ledger, follows.trans follows'⟩

section Lost

variable (idle : c.ledger.missing c.account s.approvals = [])

include idle

theorem staged_of_idle : c.staged s = c.ledger := by
  rw [staged, idle]
  rfl

/-- A direct submission that gives up the receipt of its first step has made that step. -/
theorem exists_submit_direct_lost {call : Call} {later : List Call} (mode : s.mode = .direct)
    (account : s.account = c.account) (impatient : ¬ c.Patient s.patience)
    (nonempty : plan.steps ≠ []) (fits : plan.Fits) (first : s.calls plan = call :: later)
    (applied : c.ledger.apply c.account call = .ok l) :
    ∃ message c', c.Yields (s.submit plan).run
      (.error (.submission (.stepFailed 0 0 message))) c' ∧ c'.ledger = l := by
  have stagedRun := yields_stageOwn_idle account idle
  have encodable := s.encodable_calls fits call (first ▸ List.mem_cons_self)
  obtain ⟨message, c', sent, ledger⟩ := exists_sendStep_lost encodable impatient applied 0
  refine ⟨message, c', ?_, ledger⟩
  have stops : c.Yields (s.sendSteps 0 (s.calls plan)).run
      (.error (.submission (.stepFailed 0 0 message))) c' := by
    rw [first]
    exact sent.attempt_error
  rw [Submitter.submit]
  rw [mode]
  exact (c.yields_check nonempty fits).attempt ((stagedRun.persist _ _).attempt stops.attempt_error)

/-- A batched submission that gives up its receipt has made all of its steps. -/
theorem exists_submit_batched_lost (mode : s.mode = .batched executor)
    (account : s.account = c.account) (impatient : ¬ c.Patient s.patience)
    (nonempty : plan.steps ≠ []) (fits : plan.Fits)
    (applied : c.ledger.apply c.account (c.batchOf s executor plan) = .ok l) :
    ∃ hash c', c.Yields (s.submit plan).run (.error (.chain (.receiptNotFound hash))) c' ∧
      c'.ledger = l := by
  have stagedRun := yields_stageOwn_idle account idle
  obtain ⟨data, encoded⟩ := c.encodable_batchOf s executor fits
  obtain ⟨hash, c', confirmed, ledger⟩ := exists_confirm_lost encoded impatient applied
  exact ⟨hash, c', yields_submit_batched mode nonempty fits (stagedRun.persist _ _)
    (staged_of_idle idle).symm confirmed.attempt_error, ledger⟩

end Lost

end Submit

end Arbitrage.SimulatedChain
