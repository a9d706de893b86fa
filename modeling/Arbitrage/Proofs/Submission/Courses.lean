import Arbitrage.Proofs.Chain.Persistence
import Arbitrage.Submission.Submitter

/-!
# What the parts of a submission ask and send

Each part of a submission is described by what it delivers and by what it comes to, for any answers.
Reading allowances delivers nothing, and finds missing what was read below the maximum
(`course_split`). Raising allowances delivers approvals in order, up to the first that fails
(`course_raise`). Sending steps delivers calls in order, each after the one before it has succeeded:
`Steps` is that relation, and `course_sendSteps` says that nothing else can happen.
-/

namespace Arbitrage

open World Process World.Dialogue

variable {d : Dialogue}

namespace Approval

/-- Allowances that were read, each for an approval, in the order of the approvals. -/
def reading (owner : Address) (readings : List (Approval × Word)) : Dialogue :=
  readings.map fun (a, w) => ⟨.allowance a.token owner a.spender, .ok w⟩

def lacking (readings : List (Approval × Word)) : List Approval :=
  (readings.filter fun (_, w) => w ≠ allowance).map Prod.fst

theorem lacking_sublist (readings : List (Approval × Word)) :
    (lacking readings).Sublist (readings.map Prod.fst) := List.filter_sublist.map _

/-- Splitting approvals reads their allowances and sends nothing; those are missing whose allowance
was read below the maximum. -/
theorem course_split {owner : Address} {approvals : List Approval}
    {r : Except Failure (List Approval × List Approval)}
    (course : (split owner approvals).run.Course d r) :
    Delivers d [] ∧ ∀ missing present, r = .ok (missing, present) →
      ∃ readings, readings.map Prod.fst = approvals ∧ d = reading owner readings ∧
        missing = lacking readings := by
  induction approvals generalizing d r with
  | nil =>
      obtain ⟨rfl, rfl⟩ := course_done_iff.mp course
      refine ⟨.nil, ?_⟩
      intro missing present same
      cases same
      exact ⟨[], rfl, rfl, rfl⟩
  | cons a rest ih =>
      obtain ⟨e, asked, rfl⟩ | ⟨_, w, later, rfl, asked, rest⟩ := course_attempt_iff.mp course
      · obtain rfl := course_request_iff.mp asked
        exact ⟨delivers_allowance, nofun⟩
      · obtain rfl := course_request_iff.mp asked
        obtain ⟨found, others, rfl⟩ := course_attempt_map_iff.mp rest
        obtain ⟨quiet, split⟩ := ih others
        refine ⟨delivers_allowance.append quiet, ?_⟩
        intro missing present same
        cases found with
        | error e => cases same
        | ok found =>
            obtain ⟨readings, rfl, rfl, known⟩ := split found.1 found.2 rfl
            refine ⟨(a, w) :: readings, rfl, rfl, ?_⟩
            by_cases raised : w = allowance
            · simp only [Except.map, raised, if_true] at same
              cases same
              simp [lacking, raised, known]
            · simp only [Except.map, raised, if_false] at same
              cases same
              simp [lacking, raised, known]

end Approval

namespace Submitter

variable {s : Submitter} {plan : Plan}

/-- Raising allowances delivers approvals in order. It ends with a failure that may pass only if that
is what became of the last of them. -/
theorem course_raise {approvals : List Approval} {r : Except Failure Unit}
    (course : (s.raise approvals).run.Course d r) :
    ∃ sent, Delivers d sent ∧ sent.map Delivery.call <+: approvals.map Approval.call ∧
      ∀ e, r = .error e → e.isTransient = true →
        ∃ x, sent.getLast? = some x ∧ x.outcome = some (.error e) := by
  induction approvals generalizing d r with
  | nil =>
      obtain ⟨rfl, rfl⟩ := course_done_iff.mp course
      exact ⟨[], .nil, List.prefix_rfl, nofun⟩
  | cons a others ih =>
      obtain ⟨e, failed, rfl⟩ | ⟨_, receipt, _, rfl, confirmed, rest⟩ := course_attempt_iff.mp course
      · obtain ⟨hash, made⟩ := delivers_confirm failed
        refine ⟨_, made, by simp, ?_⟩
        rintro _ ⟨rfl⟩ -
        exact ⟨_, rfl, rfl⟩
      · obtain ⟨hash, made⟩ := delivers_confirm confirmed
        split at rest
        · obtain ⟨later, raised, reported⟩ := course_record rest
          obtain ⟨sent, made', listed, lost⟩ := ih raised
          refine ⟨_, made.append (reported sent made'), ?_, ?_⟩
          · exact (List.prefix_cons_inj _).mpr listed
          · intro e same transient
            obtain ⟨x, last, outcome⟩ := lost e same transient
            refine ⟨x, ?_, outcome⟩
            rw [List.singleton_append, List.getLast?_cons, last]
            rfl
        · obtain ⟨rfl, rfl⟩ := course_done_iff.mp rest
          rw [List.append_nil]
          refine ⟨_, made, by simp, ?_⟩
          rintro _ ⟨rfl⟩ ⟨⟩

/-- Staging the own approvals reads all of their allowances, and delivers some of the approvals. -/
theorem course_stageOwn {r : Except Failure Staging} (course : s.stageOwn.run.Course d r) :
    ∃ (sent : List Delivery) (missing : List Approval), Delivers d sent ∧
      missing.Sublist s.approvals ∧ sent.map Delivery.call <+: missing.map Approval.call ∧
      ∀ e, r = .error e → e.isTransient = true →
        sent = [] ∨ ∃ x, sent.getLast? = some x ∧ x.outcome = some (.error e) := by
  obtain ⟨e, unread, rfl⟩ | ⟨_, found, _, rfl, read, rest⟩ := course_attempt_iff.mp course
  · obtain ⟨quiet, -⟩ := Approval.course_split unread
    exact ⟨[], [], quiet, List.nil_sublist _, List.prefix_rfl, fun _ _ _ => .inl rfl⟩
  · obtain ⟨quiet, split⟩ := Approval.course_split read
    obtain ⟨readings, listed, -, missing⟩ := split found.1 found.2 rfl
    have part : found.1.Sublist s.approvals := by
      rw [missing, ← listed]
      exact Approval.lacking_sublist readings
    obtain ⟨result, raised, rfl⟩ := course_attempt_map_iff.mp rest
    obtain ⟨sent, made, calls, lost⟩ := course_raise raised
    refine ⟨sent, found.1, quiet.append made, part, calls, ?_⟩
    intro e same transient
    cases result with
    | ok _ => cases same
    | error e' =>
        cases same
        exact .inr (lost e rfl transient)

/-- What the outcome of a call means for the submission, which has its own words for a call that
reverts and for one that fails. -/
inductive Verdict (revert : Word → SubmissionError) (fail : Failure → Failure) :
    Except Failure Receipt → Except Failure Receipt → Prop
  | confirmed {receipt : Receipt} (success : receipt.success = true) :
      Verdict revert fail (.ok receipt) (.ok receipt)
  | reverted {receipt : Receipt} (failure : receipt.success = false) :
      Verdict revert fail (.ok receipt) (.error (.submission (revert receipt.hash)))
  | failed (e : Failure) : Verdict revert fail (.error e) (.error (fail e))

/-- What the outcome of a step means, which is told with its number. -/
def StepVerdict (step : Nat) : Except Failure Receipt → Except Failure Receipt → Prop :=
  Verdict (.reverted step) fun e => .submission (.stepFailed step step e.message)

/-- What the outcome of a batch means: its receipt if that tells of success, and a failure in every
other case. -/
def BatchVerdict : Except Failure Receipt → Except Failure Receipt → Prop := Verdict .batchReverted id

/-- A call counts as a success exactly if it has succeeded. -/
theorem Verdict.ok_iff {revert : Word → SubmissionError} {fail : Failure → Failure} {call : Call}
    {hash : Option Word} {outcome r : Except Failure Receipt} (verdict : Verdict revert fail outcome r) :
    (∃ receipt, r = .ok receipt) ↔ Delivery.Succeeded ⟨call, hash, some outcome⟩ := by
  cases verdict with
  | @confirmed receipt success => exact ⟨fun _ => ⟨receipt, rfl, success⟩, fun _ => ⟨receipt, rfl⟩⟩
  | reverted failure =>
      refine ⟨nofun, ?_⟩
      rintro ⟨_, ⟨rfl⟩, success⟩
      simp [success] at failure
  | failed e =>
      refine ⟨nofun, ?_⟩
      rintro ⟨_, ⟨⟩, -⟩

theorem course_sendStep {step : Nat} {call : Call} {r : Except Failure Receipt}
    (course : (s.sendStep step call).run.Course d r) :
    ∃ hash outcome, Delivers d [⟨call, hash, some outcome⟩] ∧ StepVerdict step outcome r := by
  obtain ⟨_, outcome, _, rfl, confirmed, rest⟩ := course_bind_iff.mp course
  obtain ⟨hash, made⟩ := delivers_confirm confirmed
  refine ⟨hash, outcome, ?_⟩
  cases outcome with
  | error e =>
      obtain ⟨_, _, rfl, ended⟩ := course_request_bind_iff.mp rest
      obtain ⟨rfl, rfl⟩ := course_done_iff.mp ended
      exact ⟨made.append delivers_record, .failed e⟩
  | ok receipt =>
      dsimp only at rest
      split at rest
      · next success =>
          obtain ⟨_, _, rfl, ended⟩ := course_request_bind_iff.mp rest
          obtain ⟨rfl, rfl⟩ := course_done_iff.mp ended
          exact ⟨made.append delivers_record, .confirmed success⟩
      · next failure =>
          obtain ⟨_, _, rfl, ended⟩ := course_request_bind_iff.mp rest
          obtain ⟨rfl, rfl⟩ := course_done_iff.mp ended
          exact ⟨made.append delivers_record, .reverted (by simpa using failure)⟩

/-- How steps may go that are sent one by one, the first being number `step`: those delivered, and
the result. A step is followed by the next one only if it was confirmed. -/
inductive Steps : (step : Nat) → List Call → List Delivery → Except Failure (List Receipt) → Prop
  | finished (step : Nat) : Steps step [] [] (.ok [])
  | next {step : Nat} {call : Call} {hash : Option Word} {receipt : Receipt} {calls : List Call}
      {sent : List Delivery} {r : Except Failure (List Receipt)} (success : receipt.success = true)
      (later : Steps (step + 1) calls sent r) :
      Steps step (call :: calls) (⟨call, hash, some (.ok receipt)⟩ :: sent) (r.map (receipt :: ·))
  | stopped {step : Nat} {call : Call} {hash : Option Word} {outcome : Except Failure Receipt}
      {calls : List Call} {e : Failure} (verdict : StepVerdict step outcome (.error e)) :
      Steps step (call :: calls) [⟨call, hash, some outcome⟩] (.error e)

theorem course_sendSteps {step : Nat} {calls : List Call} {r : Except Failure (List Receipt)}
    (course : (s.sendSteps step calls).run.Course d r) :
    ∃ sent, Delivers d sent ∧ Steps step calls sent r := by
  induction calls generalizing d step r with
  | nil =>
      obtain ⟨rfl, rfl⟩ := course_done_iff.mp course
      exact ⟨[], .nil, .finished step⟩
  | cons call calls ih =>
      obtain ⟨e, failed, rfl⟩ | ⟨_, receipt, _, rfl, confirmed, rest⟩ := course_attempt_iff.mp course
      · obtain ⟨hash, outcome, made, verdict⟩ := course_sendStep failed
        exact ⟨_, made, .stopped verdict⟩
      · obtain ⟨hash, outcome, made, verdict⟩ := course_sendStep confirmed
        cases verdict with
        | confirmed success =>
            obtain ⟨r', others, rfl⟩ := course_attempt_map_iff.mp rest
            obtain ⟨sent, made', steps⟩ := ih others
            exact ⟨_, made.append made', .next success steps⟩

theorem Steps.calls_prefix {step : Nat} {calls : List Call} {sent : List Delivery}
    {r : Except Failure (List Receipt)} (steps : Steps step calls sent r) :
    sent.map Delivery.call <+: calls := by
  induction steps with
  | finished step => exact List.prefix_rfl
  | next success later ih => exact (List.prefix_cons_inj _).mpr ih
  | stopped verdict => simp

theorem course_sendBatch {executor : Address} {tokens : List Address} {calls : List Call}
    {r : Except Failure Receipt} (course : (s.sendBatch executor tokens calls).run.Course d r) :
    ∃ hash outcome, Delivers d [⟨.batch executor tokens calls, hash, some outcome⟩] ∧
      BatchVerdict outcome r := by
  obtain ⟨e, failed, rfl⟩ | ⟨_, receipt, _, rfl, confirmed, rest⟩ := course_attempt_iff.mp course
  · obtain ⟨hash, made⟩ := delivers_confirm failed
    exact ⟨hash, _, made, .failed e⟩
  · obtain ⟨hash, made⟩ := delivers_confirm confirmed
    refine ⟨hash, .ok receipt, ?_⟩
    split at rest
    · next success =>
        obtain ⟨_, ended, reported⟩ := course_record rest
        obtain ⟨rfl, rfl⟩ := course_done_iff.mp ended
        exact ⟨made.append (reported [] .nil), .confirmed success⟩
    · next failure =>
        obtain ⟨_, ended, reported⟩ := course_record rest
        obtain ⟨rfl, rfl⟩ := course_done_iff.mp ended
        exact ⟨made.append (reported [] .nil), .reverted (by simpa using failure)⟩

/-- Some calls approve what the last reads of a dialogue found below the maximum, of all that the batch
executor has to approve. -/
def FoundMissing (s : Submitter) (executor : Address) (d : Dialogue) (calls : List Call) : Prop :=
  ∃ earlier readings, d = earlier ++ Approval.reading executor readings ∧
    readings.map Prod.fst = s.protocol ∧ calls = (Approval.lacking readings).map Approval.call

theorem course_missingDownstream {executor : Address} {activity : String}
    {r : Except Failure (List Call)} (mode : s.mode = .batched executor)
    (course : (persist s.patience activity s.missingDownstream).run.Course d r) :
    Delivers d [] ∧ ∀ calls, r = .ok calls → s.FoundMissing executor d calls := by
  have one : ∀ d r, s.missingDownstream.run.Course d r →
      Delivers d [] ∧ ∀ calls, r = .ok calls → s.FoundMissing executor d calls := by
    intro d r course
    rw [missingDownstream] at course
    rw [mode] at course
    obtain ⟨found, read, rfl⟩ := course_attempt_map_iff.mp course
    obtain ⟨quiet, split⟩ := Approval.course_split read
    refine ⟨quiet, ?_⟩
    intro calls same
    cases found with
    | error e => cases same
    | ok found =>
        cases same
        obtain ⟨readings, listed, rfl, missing⟩ := split found.1 found.2 rfl
        exact ⟨[], readings, rfl, listed, congrArg (List.map Approval.call) missing⟩
  refine course_persist one ?_ course
  intro d e event delay later r tried _ ⟨quiet, known⟩
  refine ⟨delivers_retried (one d _ tried).1 quiet event delay, ?_⟩
  intro calls same
  obtain ⟨earlier, readings, rfl, listed, missing⟩ := known calls same
  exact ⟨retried d event delay earlier, readings, by simp [retried], listed, missing⟩

/-- What is left of a batched submission once it is known which approvals are missing. -/
def afterChecking (s : Submitter) (executor : Address) (plan : Plan) (approvals : List Call) :
    Attempt Submission := do
  unless approvals.isEmpty do
    World.record (.approvalsPrepended approvals.length)
  let receipt ← s.sendBatch executor plan.tokens (approvals ++ s.calls plan)
  return ⟨.batched executor, [receipt], plan.length⟩

/-- What is left of a submission once the own approvals are staged. -/
def afterStaging (s : Submitter) (plan : Plan) : Attempt Submission :=
  match s.mode with
  | .direct => do
    let receipts ← s.sendSteps 0 (s.calls plan)
    return ⟨.direct, receipts, receipts.length⟩
  | .batched executor => do
    let approvals ← persist s.patience "submit" s.missingDownstream
    s.afterChecking executor plan approvals

theorem course_afterStaging_direct {r : Except Failure Submission} (mode : s.mode = .direct)
    (course : (s.afterStaging plan).run.Course d r) :
    ∃ sent r', Delivers d sent ∧ Steps 0 (s.calls plan) sent r' ∧
      r = r'.map fun receipts => ⟨.direct, receipts, receipts.length⟩ := by
  rw [afterStaging] at course
  rw [mode] at course
  obtain ⟨r', all, rfl⟩ := course_attempt_map_iff.mp course
  obtain ⟨sent, made, steps⟩ := course_sendSteps all
  exact ⟨sent, r', made, steps, rfl⟩

theorem course_afterChecking {executor : Address} {approvals : List Call}
    {r : Except Failure Submission}
    (course : (s.afterChecking executor plan approvals).run.Course d r) :
    ∃ hash outcome r', Delivers d
        [⟨.batch executor plan.tokens (approvals ++ s.calls plan), hash, some outcome⟩] ∧
      BatchVerdict outcome r' ∧
      r = r'.map fun receipt => ⟨.batched executor, [receipt], plan.length⟩ := by
  have sending : ∀ d, (s.sendBatch executor plan.tokens (approvals ++ s.calls plan) >>= fun receipt =>
      (pure ⟨.batched executor, [receipt], plan.length⟩ : Attempt Submission)).run.Course d r →
      ∃ hash outcome r', Delivers d
          [⟨.batch executor plan.tokens (approvals ++ s.calls plan), hash, some outcome⟩] ∧
        BatchVerdict outcome r' ∧
        r = r'.map fun receipt => ⟨.batched executor, [receipt], plan.length⟩ := by
    intro d course
    obtain ⟨r', sent, rfl⟩ := course_attempt_map_iff.mp course
    obtain ⟨hash, outcome, made, verdict⟩ := course_sendBatch sent
    exact ⟨hash, outcome, r', made, verdict, rfl⟩
  rw [afterChecking] at course
  -- A report comes before the batch if approvals are missing.
  split at course
  · exact sending d course
  · obtain ⟨later, sent, reported⟩ := course_record course
    obtain ⟨hash, outcome, r', made, verdict, same⟩ := sending later sent
    exact ⟨hash, outcome, r', reported _ made, verdict, same⟩

/-- Batched, a submission looks for what the batch executor lacks, which sends nothing, and then sends
the batch. -/
theorem course_afterStaging_batched {executor : Address} {r : Except Failure Submission}
    (mode : s.mode = .batched executor) (course : (s.afterStaging plan).run.Course d r) :
    (∃ e, (persist s.patience "submit" s.missingDownstream).run.Course d (.error e) ∧
        r = .error e) ∨
      ∃ d₁ approvals d₂, d = d₁ ++ d₂ ∧
        (persist s.patience "submit" s.missingDownstream).run.Course d₁ (.ok approvals) ∧
        (s.afterChecking executor plan approvals).run.Course d₂ r := by
  rw [afterStaging] at course
  rw [mode] at course
  exact course_attempt_iff.mp course

theorem submit_eq (s : Submitter) (plan : Plan) :
    s.submit plan = (do
      s.check plan
      let _ ← persist s.patience "submit" s.stageOwn
      s.afterStaging plan) := rfl

/-- A submission that checks out stages the own approvals first, and goes on if that succeeds. -/
theorem course_submit {r : Except Failure Submission} (course : (s.submit plan).run.Course d r) :
    (∃ e, s.check plan = .error e ∧ d = [] ∧ r = .error e) ∨
      (∃ e, (persist s.patience "submit" s.stageOwn).run.Course d (.error e) ∧ r = .error e) ∨
      ∃ d₁ staging d₂, d = d₁ ++ d₂ ∧
        (persist s.patience "submit" s.stageOwn).run.Course d₁ (.ok staging) ∧
        (s.afterStaging plan).run.Course d₂ r := by
  rw [submit_eq] at course
  cases checked : s.check plan with
  | error e =>
      rw [checked] at course
      obtain ⟨rfl, rfl⟩ := course_done_iff.mp course
      exact .inl ⟨e, rfl, rfl, rfl⟩
  | ok _ =>
      rw [checked] at course
      exact .inr (course_attempt_iff.mp course)

theorem ne_nil_of_staging {activity : String} {r : Except Failure Staging}
    (course : (persist s.patience activity s.stageOwn).run.Course d r) : d ≠ [] := by
  have one : ∀ d r, s.stageOwn.run.Course d r → d ≠ [] := by
    intro d r course
    obtain ⟨a, others, listed⟩ : ∃ a others, s.approvals = a :: others := by
      rw [approvals]
      cases s.mode <;> exact ⟨_, _, rfl⟩
    rw [stageOwn] at course
    rw [listed] at course
    obtain ⟨_, _, rfl, -⟩ := course_ask_iff.mp course
    simp
  refine course_persist one ?_ course
  intro d e event delay later r _ _ _
  simp [retried]

/-- The dialogue that stages the own approvals decides where the rest of a submission begins. -/
theorem course_afterStaging {d₁ d₂ : Dialogue} {staging : Staging} {r : Except Failure Submission}
    (staged : (persist s.patience "submit" s.stageOwn).run.Course d₁ (.ok staging)) :
    (s.submit plan).run.Course (d₁ ++ d₂) r ↔
      s.check plan = .ok () ∧ (s.afterStaging plan).run.Course d₂ r := by
  rw [submit_eq]
  cases checked : s.check plan with
  | error e =>
      constructor
      · intro course
        obtain ⟨none, -⟩ := course_done_iff.mp course
        exact absurd (List.append_eq_nil_iff.mp none).1 (ne_nil_of_staging staged)
      · rintro ⟨⟨⟩, -⟩
  | ok _ =>
      constructor
      · intro course
        exact ⟨rfl, staged.attempt_rest course⟩
      · rintro ⟨-, course⟩
        have both : (persist s.patience "submit" s.stageOwn >>= fun _ =>
            s.afterStaging plan).run.Course (d₁ ++ d₂) r := staged.bind course
        exact both

end Submitter

end Arbitrage
