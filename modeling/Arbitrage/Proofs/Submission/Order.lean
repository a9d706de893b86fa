import Arbitrage.Proofs.Submission.Agreement
import Arbitrage.Proofs.Submission.Courses
import Arbitrage.World.Script

/-!
# In what order a submission sends, and where it stops

Once the own approvals are staged, a direct submission hands over the calls of its plan one by one:
each waits until the one before it is known to have taken effect, the first that does not ends the
submission, and the result tells exactly how far it went. A batched submission hands over one call,
which holds the approvals that were found missing and then the calls of the plan.

This holds for any answers of the world and any patience (`submit_in_order`).
-/

namespace Arbitrage

namespace Submitter

open World Process World.Dialogue

variable {s : Submitter} {plan : Plan}

section Steps

variable {step : Nat} {calls : List Call} {sent : List Delivery} {r : Except Failure (List Receipt)}

/-- Steps that all go through were sent one and all, and tell of success. -/
theorem Steps.of_ok {receipts : List Receipt} (steps : Steps step calls sent (.ok receipts)) :
    sent.map Delivery.call = calls ∧ (∀ x ∈ sent, x.Succeeded) ∧
      sent.map Delivery.outcome = receipts.map fun receipt => some (.ok receipt) := by
  generalize whole : (Except.ok receipts : Except Failure (List Receipt)) = r at steps
  induction steps generalizing receipts with
  | finished step =>
      cases whole
      exact ⟨rfl, List.forall_mem_nil _, rfl⟩
  | @next step call hash receipt calls sent r success later ih =>
      cases r with
      | error e => cases whole
      | ok receipts' =>
          cases whole
          obtain ⟨listed, succeeded, told⟩ := ih rfl
          refine ⟨congrArg (call :: ·) listed, ?_, ?_⟩
          · exact List.forall_mem_cons.mpr ⟨⟨receipt, rfl, success⟩, succeeded⟩
          · rw [List.map_cons, told]
            rfl
  | stopped verdict => cases whole

/-- A step that did not succeed is the last one sent, and its outcome decides the result. -/
theorem Steps.of_not_succeeded {i : Nat} {x : Delivery} (steps : Steps step calls sent r)
    (listed : sent[i]? = some x) (failed : ¬ x.Succeeded) :
    i + 1 = sent.length ∧ ∃ outcome e, x.outcome = some outcome ∧ r = .error e ∧
      StepVerdict (step + i) outcome (.error e) := by
  induction steps generalizing i with
  | finished step => cases listed
  | next success later ih =>
      cases i with
      | zero =>
          cases listed
          exact absurd ⟨_, rfl, success⟩ failed
      | succ i =>
          obtain ⟨last, outcome, e, told, rfl, verdict⟩ := ih listed
          refine ⟨by simpa using last, outcome, e, told, rfl, ?_⟩
          rw [Nat.add_right_comm] at verdict
          exact verdict
  | stopped verdict =>
      cases i with
      | zero =>
          cases listed
          exact ⟨rfl, _, _, rfl, rfl, verdict⟩
      | succ i => cases listed

theorem Steps.exists_not_succeeded {e : Failure} (steps : Steps step calls sent (.error e)) :
    ∃ x ∈ sent, ¬ x.Succeeded := by
  generalize whole : (Except.error e : Except Failure (List Receipt)) = r at steps
  induction steps with
  | finished step => cases whole
  | @next step call hash receipt calls sent r success later ih =>
      cases r with
      | ok receipts => cases whole
      | error e' =>
          cases whole
          obtain ⟨x, among, failed⟩ := ih rfl
          exact ⟨x, List.mem_cons_of_mem _ among, failed⟩
  | stopped verdict =>
      refine ⟨_, List.mem_singleton_self _, ?_⟩
      intro succeeded
      obtain ⟨_, ⟨⟩⟩ := verdict.ok_iff.mpr succeeded

end Steps

/-- The calls of a plan were sent one by one, each after the one before it was known to have taken
effect and up to the first that did not, and the result tells how far that went. -/
structure OneByOne (calls : List Call) (d : Dialogue) (r : Except Failure Submission) : Prop where
  /-- Sent are the first of the calls, in their order and each of them once. -/
  in_order : d.broadcasts <+: calls
  /-- When a call is sent, all those before it have receipts of success. -/
  awaited : ∀ (before : Dialogue) (call : Call) (answer : Except Failure Word) (after : Dialogue),
    d = before ++ ⟨.broadcast call, answer⟩ :: after → ∀ x ∈ before.deliveries, x.Succeeded
  /-- Success means that every call has a receipt of success. -/
  ok_iff : (∃ submission, r = .ok submission) ↔
    d.broadcasts = calls ∧ ∀ x ∈ d.deliveries, x.Succeeded
  /-- A submission that succeeds lists the receipts of the calls in their order. -/
  report : ∀ submission, r = .ok submission → submission.mode = .direct ∧
    submission.completedSteps = calls.length ∧
    d.deliveries.map Delivery.outcome = submission.receipts.map fun receipt => some (.ok receipt)
  /-- A submission fails only at a call that was sent and did not take effect. -/
  stopped : ∀ e, r = .error e → ∃ x ∈ d.deliveries, ¬ x.Succeeded
  /-- A call that does not take effect is the last one sent, and the failure is about it. -/
  failure : ∀ (i : Nat) (x : Delivery), d.deliveries[i]? = some x → ¬ x.Succeeded →
    i + 1 = d.deliveries.length ∧
    ((∃ receipt, x.outcome = some (.ok receipt) ∧ receipt.success = false ∧
        r = .error (.submission (.reverted i receipt.hash))) ∨
      ∃ e, x.outcome = some (.error e) ∧ r = .error (.submission (.stepFailed i i e.message)))

/-- One batch was sent, and the result tells what became of it. -/
structure AtOnce (executor : Address) (steps : Nat) (batch : Call) (d : Dialogue)
    (r : Except Failure Submission) : Prop where
  sent_once : d.broadcasts = [batch]
  /-- Success means that the batch has a receipt of success. -/
  ok_iff : (∃ submission, r = .ok submission) ↔ ∃ x, d.deliveries = [x] ∧ x.Succeeded
  report : ∀ submission, r = .ok submission → ∃ receipt,
    d.deliveries.map Delivery.outcome = [some (.ok receipt)] ∧
    submission = ⟨.batched executor, [receipt], steps⟩
  failure : ∀ e, r = .error e →
    (∃ receipt, d.deliveries.map Delivery.outcome = [some (.ok receipt)] ∧
        receipt.success = false ∧ e = .submission (.batchReverted receipt.hash)) ∨
      d.deliveries.map Delivery.outcome = [some (.error e)]

theorem OneByOne.of_steps {calls : List Call} {d : Dialogue} {sent : List Delivery}
    {r : Except Failure (List Receipt)} (made : Delivers d sent) (steps : Steps 0 calls sent r) :
    OneByOne calls d (r.map fun receipts => ⟨.direct, receipts, receipts.length⟩) := by
  have deliveries : d.deliveries = sent := made.deliveries_eq
  have broadcasts : d.broadcasts = sent.map Delivery.call := by
    rw [← deliveries, map_call_deliveries]
  constructor
  · rw [broadcasts]
    exact steps.calls_prefix
  · rintro before call answer after rfl x among
    obtain ⟨later, nonempty, all⟩ := deliveries_append_broadcast before after call answer
    obtain ⟨i, bound, rfl⟩ := List.getElem_of_mem among
    -- Otherwise the delivery would be the last one, but the call was sent after it.
    by_contra failed
    have listed : sent[i]? = some before.deliveries[i] := by
      rw [← deliveries, all, List.getElem?_append_left bound, List.getElem?_eq_getElem]
    obtain ⟨last, -⟩ := steps.of_not_succeeded listed failed
    have length := congrArg List.length (deliveries.symm.trans all)
    have := List.length_pos_of_ne_nil nonempty
    simp only [List.length_append] at length
    omega
  · rw [broadcasts, deliveries]
    cases r with
    | ok receipts =>
        obtain ⟨listed, succeeded, -⟩ := steps.of_ok
        exact ⟨fun _ => ⟨listed, succeeded⟩, fun _ => ⟨_, rfl⟩⟩
    | error e =>
        obtain ⟨x, among, failed⟩ := steps.exists_not_succeeded
        exact ⟨nofun, fun all => absurd (all.2 x among) failed⟩
  · intro submission same
    cases r with
    | error e => cases same
    | ok receipts =>
        cases same
        obtain ⟨listed, -, told⟩ := steps.of_ok
        have count : receipts.length = calls.length := by
          simpa [← listed] using (congrArg List.length told).symm
        rw [deliveries]
        exact ⟨rfl, count, told⟩
  · intro e same
    rw [deliveries]
    cases r with
    | ok receipts => cases same
    | error e => exact steps.exists_not_succeeded
  · intro i x listed failed
    rw [deliveries] at listed ⊢
    obtain ⟨last, outcome, e, told, rfl, verdict⟩ := steps.of_not_succeeded listed failed
    rw [Nat.zero_add] at verdict
    refine ⟨last, ?_⟩
    cases verdict with
    | reverted failure => exact .inl ⟨_, told, failure, rfl⟩
    | failed e => exact .inr ⟨e, told, rfl⟩

theorem AtOnce.of_verdict {executor : Address} {steps : Nat} {batch : Call} {hash : Option Word}
    {d : Dialogue} {outcome r : Except Failure Receipt}
    (made : Delivers d [⟨batch, hash, some outcome⟩]) (verdict : BatchVerdict outcome r) :
    AtOnce executor steps batch d (r.map fun receipt => ⟨.batched executor, [receipt], steps⟩) := by
  have deliveries := made.deliveries_eq
  constructor
  · rw [← map_call_deliveries, deliveries]
    rfl
  · have success : (∃ receipt, r = .ok receipt) ↔ Delivery.Succeeded ⟨batch, hash, some outcome⟩ :=
      verdict.ok_iff
    rw [deliveries]
    constructor
    · rintro ⟨submission, same⟩
      cases r with
      | error e => cases same
      | ok receipt => exact ⟨_, rfl, success.mp ⟨receipt, rfl⟩⟩
    · rintro ⟨_, ⟨rfl⟩, succeeded⟩
      obtain ⟨receipt, rfl⟩ := success.mpr succeeded
      exact ⟨_, rfl⟩
  · intro submission same
    rw [deliveries]
    cases verdict with
    | @confirmed receipt success =>
        cases same
        exact ⟨receipt, rfl, rfl⟩
    | reverted failure => cases same
    | failed e => cases same
  · intro e same
    rw [deliveries]
    cases verdict with
    | confirmed success => cases same
    | @reverted receipt failure =>
        cases same
        exact .inl ⟨receipt, rfl, failure, rfl⟩
    | failed e =>
        cases same
        exact .inr rfl

/-- Once the own approvals are staged, a direct submission sends the calls of its plan one by one. In
batched mode, once the missing approvals are found too, one batch follows, of these approvals and then
the calls of the plan. -/
theorem submit_in_order {staged rest : Dialogue} {staging : Staging} {r : Except Failure Submission}
    (ready : (persist s.patience "submit" s.stageOwn).run.Course staged (.ok staging))
    (course : (s.submit plan).run.Course (staged ++ rest) r) :
    (s.mode = .direct → OneByOne (s.calls plan) rest r) ∧
      ∀ executor, s.mode = .batched executor →
        ∀ (checked : Dialogue) (approvals : List Call) (last : Dialogue), rest = checked ++ last →
          (persist s.patience "submit" s.missingDownstream).run.Course checked (.ok approvals) →
          checked.broadcasts = [] ∧ s.FoundMissing executor checked approvals ∧
            AtOnce executor plan.length (.batch executor plan.tokens (approvals ++ s.calls plan))
              last r := by
  obtain ⟨-, after⟩ := (course_afterStaging ready).mp course
  constructor
  · intro mode
    obtain ⟨sent, r', made, steps, rfl⟩ := course_afterStaging_direct mode after
    exact .of_steps made steps
  · rintro executor mode checked approvals last rfl found
    obtain ⟨quiet, missing⟩ := course_missingDownstream mode found
    rw [afterStaging] at after
    rw [mode] at after
    obtain ⟨hash, outcome, r', made, verdict, rfl⟩ :=
      course_afterChecking (found.attempt_rest after)
    refine ⟨?_, missing approvals rfl, .of_verdict made verdict⟩
    rw [← map_call_deliveries, quiet.deliveries_eq]
    rfl

end Submitter

namespace Scenario

open World Process World.Dialogue Submitter

/-- A world where, after some allowances at the maximum, one is found below it. The first wait for a
receipt is in vain, the second finds a success, and every later one a failure. -/
def unsteady (present : Nat) : Script where
  tokens := tokens
  vaults := { standing := .ok vault }
  balance := .ofUnits 1000
  allowances := ⟨List.replicate present (.ok Word.max) ++ [.ok 0], .ok Word.max⟩
  receipts := ⟨[.error (.chain (.receiptNotFound "")), .ok ⟨0, none, 21000, true⟩],
    .ok ⟨0, none, 21000, false⟩⟩

def batcher : Submitter := trader (.batched executor) .standard

/-- Sent directly, the first step is confirmed although its receipt is late, and the second reverts.
Batched, both go through, with the approval that the executor lacks in front of them. -/
theorem submit_in_order_unsteady :
    (∃ (staged rest : Dialogue) (staging : Staging),
      (persist .standard "submit" (trader .direct .standard).stageOwn).run.Course staged
        (.ok staging) ∧
      ((trader .direct .standard).submit buyAndExitPlan).run.Course (staged ++ rest)
        (.error (.submission (.reverted 1 (Script.hashOf 2)))) ∧
      OneByOne ((trader .direct .standard).calls buyAndExitPlan) rest
        (.error (.submission (.reverted 1 (Script.hashOf 2))))) ∧
    ∃ (staged checked last : Dialogue) (staging : Staging) (submission : Submission),
      (persist .standard "submit" batcher.stageOwn).run.Course staged (.ok staging) ∧
      (persist .standard "submit" batcher.missingDownstream).run.Course checked
        (.ok [.approve tokens.gem contracts.tub .max]) ∧
      (batcher.submit buyAndExitPlan).run.Course (staged ++ (checked ++ last)) (.ok submission) ∧
      last.broadcasts = [.batch executor buyAndExitPlan.tokens
        (.approve tokens.gem contracts.tub .max :: batcher.calls buyAndExitPlan)] := by
  constructor
  · have ready := course_of_run Script.answer (w := unsteady 7)
      (p := (persist .standard "submit" (trader .direct .standard).stageOwn).run)
      (a := .ok ⟨[], Approval.protocol tokens contracts⟩) rfl
    have after := course_of_run Script.answer
      (w := ((persist .standard "submit" (trader .direct .standard).stageOwn).run.run Script.answer
        (unsteady 7)).2)
      (p := ((trader .direct .standard).afterStaging buyAndExitPlan).run)
      (a := .error (.submission (.reverted 1 (Script.hashOf 2)))) (by decide +kernel)
    have course := (course_afterStaging ready).mpr ⟨by decide +kernel, after⟩
    exact ⟨_, _, _, ready, course, (submit_in_order ready course).1 rfl⟩
  · let w := ((persist .standard "submit" batcher.stageOwn).run.run Script.answer (unsteady 3)).2
    have ready := course_of_run Script.answer (w := unsteady 3)
      (p := (persist .standard "submit" batcher.stageOwn).run)
      (a := .ok ⟨[], Approval.forExecutor tokens executor⟩) rfl
    have checked := course_of_run Script.answer (w := w)
      (p := (persist .standard "submit" batcher.missingDownstream).run)
      (a := .ok [.approve tokens.gem contracts.tub .max]) rfl
    have after := course_of_run Script.answer
      (w := ((persist .standard "submit" batcher.missingDownstream).run.run Script.answer w).2)
      (p := (batcher.afterChecking executor buyAndExitPlan
        [.approve tokens.gem contracts.tub .max]).run)
      (a := .ok ⟨.batched executor, [⟨Script.hashOf 1, none, 21000, true⟩], 2⟩) (by decide +kernel)
    have rest : (batcher.afterStaging buyAndExitPlan).run.Course _ _ := checked.bind after
    have course := (course_afterStaging ready).mpr ⟨by decide +kernel, rest⟩
    obtain ⟨-, -, atOnce⟩ := (submit_in_order ready course).2 executor rfl _ _ _ rfl checked
    exact ⟨_, _, _, _, _, ready, checked, course, atOnce.sent_once⟩

end Scenario

end Arbitrage
