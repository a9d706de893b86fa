import Arbitrage.Proofs.Submission.Order
import Arbitrage.Proofs.World.Confinement

/-!
# A submission seen from outside

Whoever submits a plan stays in the phase of submitting, whatever happens (`asks_submit`). And a
submission that succeeds holds nothing but receipts of success: one for each step of the plan if the
steps were sent one by one, and a single one for a batch (`receipts_of_submit`).
-/

namespace Arbitrage

open World Process World.Dialogue

theorem Approval.asks_split (owner : Address) (approvals : List Approval) :
    (split owner approvals).run.Asks Stays := by
  induction approvals with
  | nil => exact asks_done _
  | cons a rest ih =>
      refine Asks.attempt (asks_request ⟨nofun, nofun⟩) fun present => ?_
      exact Asks.attempt ih fun found => asks_done _

namespace Submitter

variable {s : Submitter} {plan : Plan}

section Phases

theorem asks_raise (s : Submitter) (approvals : List Approval) :
    (s.raise approvals).run.Asks Stays := by
  induction approvals with
  | nil => exact asks_done _
  | cons a rest ih =>
      refine Asks.attempt (asks_confirm _) fun receipt => ?_
      split
      · exact asks_record (stays_record _) ih
      · exact asks_done _

theorem asks_stageOwn (s : Submitter) : s.stageOwn.run.Asks Stays := by
  refine Asks.attempt (Approval.asks_split _ _) fun found => ?_
  exact Asks.attempt (s.asks_raise _) fun _ => asks_done _

theorem asks_sendStep (s : Submitter) (step : Nat) (call : Call) :
    (s.sendStep step call).run.Asks Stays := by
  refine (asks_confirm _).bind ?_
  intro r
  cases r with
  | error e => exact (asks_request (stays_record _)).bind fun _ => asks_done _
  | ok receipt =>
      dsimp only
      split <;> exact (asks_request (stays_record _)).bind fun _ => asks_done _

theorem asks_sendSteps (s : Submitter) (step : Nat) (calls : List Call) :
    (s.sendSteps step calls).run.Asks Stays := by
  induction calls generalizing step with
  | nil => exact asks_done _
  | cons call calls ih =>
      refine Asks.attempt (s.asks_sendStep step call) fun receipt => ?_
      exact Asks.attempt (ih _) fun receipts => asks_done _

theorem asks_missingDownstream (s : Submitter) : s.missingDownstream.run.Asks Stays := by
  rw [missingDownstream]
  split
  · exact asks_done _
  · exact Asks.attempt (Approval.asks_split _ _) fun found => asks_done _

theorem asks_afterChecking (s : Submitter) (executor : Address) (plan : Plan)
    (approvals : List Call) : (s.afterChecking executor plan approvals).run.Asks Stays := by
  have sending : (s.sendBatch executor plan.tokens (approvals ++ s.calls plan)).run.Asks Stays := by
    refine Asks.attempt (asks_confirm _) fun receipt => ?_
    split <;> exact asks_record (stays_record _) (asks_done _)
  rw [afterChecking]
  split
  · exact Asks.attempt sending fun receipt => asks_done _
  · exact asks_record (stays_record _) (Asks.attempt sending fun receipt => asks_done _)

theorem asks_afterStaging (s : Submitter) (plan : Plan) :
    (s.afterStaging plan).run.Asks Stays := by
  rw [afterStaging]
  split
  · exact Asks.attempt (s.asks_sendSteps _ _) fun receipts => asks_done _
  · exact Asks.attempt (asks_persist stays_of_reads s.asks_missingDownstream) fun approvals =>
      s.asks_afterChecking _ _ _

theorem asks_submit (s : Submitter) (plan : Plan) : (s.submit plan).run.Asks Stays := by
  rw [submit_eq]
  cases s.check plan with
  | error e => exact asks_done _
  | ok _ =>
      have rest : (persist s.patience "submit" s.stageOwn >>= fun _ =>
          s.afterStaging plan).run.Asks Stays :=
        Asks.attempt (asks_persist stays_of_reads s.asks_stageOwn) fun _ => s.asks_afterStaging plan
      exact rest

end Phases

section Receipts

/-- What the receipts of a submission tell once it has succeeded. -/
structure Succeeded (s : Submitter) (plan : Plan) (submission : Submission) : Prop where
  success : ∀ receipt ∈ submission.receipts, receipt.success = true
  direct_length : s.mode = .direct → submission.receipts.length = plan.length
  batched_length : ∀ executor, s.mode = .batched executor → submission.receipts.length = 1

variable {step : Nat} {calls : List Call} {sent : List Delivery} {receipts : List Receipt}

/-- Steps that all go through leave a receipt of success each. -/
theorem Steps.receipts_of_ok (steps : Steps step calls sent (.ok receipts)) :
    receipts.length = calls.length ∧ ∀ receipt ∈ receipts, receipt.success = true := by
  obtain ⟨listed, succeeded, told⟩ := steps.of_ok
  constructor
  · have counted := congrArg List.length told
    rw [List.length_map, List.length_map] at counted
    rw [← counted, ← listed, List.length_map]
  · intro receipt among
    have outcome : some (.ok receipt) ∈ sent.map Delivery.outcome := by
      rw [told]
      exact List.mem_map_of_mem among
    obtain ⟨x, delivered, same⟩ := List.mem_map.mp outcome
    obtain ⟨other, same', success⟩ := succeeded x delivered
    cases same.symm.trans same'
    exact success

theorem receipts_of_submit {d : Dialogue} {submission : Submission}
    (course : (s.submit plan).run.Course d (.ok submission)) : s.Succeeded plan submission := by
  obtain ⟨e, -, -, none⟩ | ⟨e, -, none⟩ | ⟨_, staging, _, -, -, after⟩ := course_submit course
  · cases none
  · cases none
  cases mode : s.mode with
  | direct =>
      obtain ⟨sent, r, -, steps, same⟩ := course_afterStaging_direct mode after
      cases r with
      | error e => cases same
      | ok receipts =>
          cases same
          obtain ⟨counted, success⟩ := Steps.receipts_of_ok steps
          refine ⟨success, ?_, ?_⟩
          · intro _
            rw [counted, calls, List.length_map, Plan.length]
          · intro executor batched
            cases mode.symm.trans batched
  | batched executor =>
      obtain ⟨e, -, none⟩ | ⟨_, approvals, _, -, -, last⟩ := course_afterStaging_batched mode after
      · cases none
      · obtain ⟨hash, outcome, r, -, verdict, same⟩ := course_afterChecking last
        cases verdict with
        | @confirmed receipt success =>
            cases same
            refine ⟨List.forall_mem_singleton.mpr success, ?_, fun _ _ => rfl⟩
            intro direct
            cases mode.symm.trans direct
        | reverted _ => cases same
        | failed e => cases same

end Receipts

end Submitter

end Arbitrage
