import Arbitrage.Proofs.Submission.Order

/-!
# What cannot be encoded is not sent

All calls of a plan are encoded before anything is asked, so a plan with an amount out of range ends
at once, with the first such amount. And what is encoded then covers all that is sent later: an
approval always has data, and a batch has it if the approvals and the calls in it have. So nothing
that a submission sends can fail to encode (`submit_encodable`).
-/

namespace Arbitrage

open World Process World.Dialogue

/-- The amount that a step puts into its call fits its on-chain integer. -/
def Step.Encodes (contracts : Contracts) (step : Step) : Prop :=
  (Action.ofStep contracts step).2.InRange

namespace Submitter

variable {s : Submitter} {plan : Plan} {d : Dialogue}

section Refused

theorem submit_of_check_error {e : Failure} (refused : s.check plan = .error e) :
    (s.submit plan).run = .done (.error e) := by
  rw [submit_eq, refused]
  rfl

/-- Of steps that are not all in range there is a first that is not. -/
theorem exists_first_overflow {contracts : Contracts} {steps : List Step}
    (excess : ∃ step ∈ steps, ¬ step.Encodes contracts) :
    ∃ before step after amount, steps = before ++ step :: after ∧
      (∀ earlier ∈ before, earlier.Encodes contracts) ∧
      (Action.ofStep contracts step).2.Overflows amount := by
  induction steps with
  | nil =>
      obtain ⟨step, none, -⟩ := excess
      cases none
  | cons first steps ih =>
      obtain fits | ⟨amount, large⟩ := (Action.ofStep contracts first).2.inRange_or_overflows
      · have later : ∃ step ∈ steps, ¬ step.Encodes contracts := by
          obtain ⟨step, listed, out⟩ := excess
          obtain rfl | listed := List.mem_cons.mp listed
          · exact absurd fits out
          · exact ⟨step, listed, out⟩
        obtain ⟨before, step, after, amount, rfl, earlier, large⟩ := ih later
        exact ⟨first :: before, step, after, amount, rfl,
          List.forall_mem_cons.mpr ⟨fits, earlier⟩, large⟩
      · exact ⟨[], first, steps, amount, rfl, List.forall_mem_nil _, large⟩

/-- The check fails with the first amount that is out of range. -/
theorem check_of_overflow {before after : List Step} {step : Step} {amount : Wad}
    (steps : plan.steps = before ++ step :: after)
    (earlier : ∀ step ∈ before, step.Encodes s.contracts)
    (large : (Action.ofStep s.contracts step).2.Overflows amount) :
    s.check plan = .error (.submission (Action.overflow amount)) := by
  have encodable : ∀ call ∈ before.map (Call.ofStep s.contracts), call.Encodable := by
    refine List.forall_mem_map.mpr fun step listed => ?_
    exact Call.encodable_single_iff.mpr (earlier step listed)
  have failed : (Call.ofStep s.contracts step).calldata = .error (Action.overflow amount) := by
    rw [Call.ofStep, Call.calldata]
    exact Action.calldata_of_overflows large
  rw [check, calls, steps, if_neg (by simp), List.map_append, List.map_cons]
  exact checkCalls_of_error encodable failed

/-- A plan that checks out has calls that can all be encoded. -/
theorem encodable_of_check (checked : s.check plan = .ok ()) :
    ∀ call ∈ s.calls plan, call.Encodable := by
  rw [check] at checked
  split at checked
  · cases checked
  · exact checkCalls_eq_ok_iff.mp checked

end Refused

section Sent

def DeliversEncodable (d : Dialogue) : Prop := ∃ sent, Delivers d sent ∧ ∀ x ∈ sent, x.call.Encodable

theorem DeliversEncodable.append {d₁ d₂ : Dialogue} (first : DeliversEncodable d₁)
    (second : DeliversEncodable d₂) : DeliversEncodable (d₁ ++ d₂) := by
  obtain ⟨sent₁, made₁, all₁⟩ := first
  obtain ⟨sent₂, made₂, all₂⟩ := second
  exact ⟨sent₁ ++ sent₂, made₁.append made₂, List.forall_mem_append.mpr ⟨all₁, all₂⟩⟩

theorem encodable_of_staging {activity : String} {r : Except Failure Staging}
    (course : (persist s.patience activity s.stageOwn).run.Course d r) : DeliversEncodable d := by
  have one : ∀ d r, s.stageOwn.run.Course d r → DeliversEncodable d := by
    intro d r course
    obtain ⟨sent, missing, made, -, calls, -⟩ := course_stageOwn course
    refine ⟨sent, made, ?_⟩
    intro x among
    obtain ⟨a, -, same⟩ := List.mem_map.mp (calls.subset (List.mem_map_of_mem among))
    rw [← same]
    exact Call.encodable_approval a
  refine course_persist one ?_ course
  rintro d e event delay later r tried _ ⟨sent, made, all⟩
  obtain ⟨sent', made', all'⟩ := one d _ tried
  exact ⟨sent' ++ sent, delivers_retried made' made event delay,
    List.forall_mem_append.mpr ⟨all', all⟩⟩

/-- After staging the calls of the plan are sent, one by one or in a batch with approvals. -/
theorem encodable_of_afterStaging {r : Except Failure Submission}
    (encodable : ∀ call ∈ s.calls plan, call.Encodable)
    (course : (s.afterStaging plan).run.Course d r) : DeliversEncodable d := by
  cases mode : s.mode with
  | direct =>
      obtain ⟨sent, r', made, steps, -⟩ := course_afterStaging_direct mode course
      refine ⟨sent, made, ?_⟩
      intro x among
      exact encodable _ (steps.calls_prefix.subset (List.mem_map_of_mem among))
  | batched executor =>
      obtain ⟨e, failed, -⟩ | ⟨_, approvals, _, rfl, found, rest⟩ :=
        course_afterStaging_batched mode course
      · exact ⟨[], (course_missingDownstream mode failed).1, List.forall_mem_nil _⟩
      · obtain ⟨quiet, missing⟩ := course_missingDownstream mode found
        obtain ⟨-, readings, -, -, rfl⟩ := missing approvals rfl
        obtain ⟨hash, outcome, r', made, -, -⟩ := course_afterChecking rest
        refine ⟨_, quiet.append made, ?_⟩
        rw [List.nil_append, List.forall_mem_singleton, Call.encodable_batch_iff,
          List.forall_mem_append]
        exact ⟨List.forall_mem_map.mpr fun a _ => Call.encodable_approval a, encodable⟩

theorem encodable_of_submit {r : Except Failure Submission}
    (course : (s.submit plan).run.Course d r) : DeliversEncodable d := by
  obtain ⟨e, -, rfl, -⟩ | ⟨e, failed, -⟩ | ⟨_, staging, _, rfl, staged, after⟩ := course_submit course
  · exact ⟨[], .nil, List.forall_mem_nil _⟩
  · exact encodable_of_staging failed
  · obtain ⟨checked, -⟩ := (course_afterStaging staged).mp course
    exact (encodable_of_staging staged).append
      (encodable_of_afterStaging (encodable_of_check checked) after)

end Sent

/-- A plan without steps, and one with an amount out of range at any of its steps, are refused before
anything is asked; the error is then about the first such amount. And whatever the world answers,
every call that a submission sends can be encoded. -/
theorem submit_encodable (s : Submitter) (plan : Plan) :
    (plan.steps = [] → (s.submit plan).run = .done (.error (.submission .emptyPlan))) ∧
      ((∃ step ∈ plan.steps, ¬ step.Encodes s.contracts) →
        ∃ before step after amount, plan.steps = before ++ step :: after ∧
          (∀ earlier ∈ before, earlier.Encodes s.contracts) ∧
          (Action.ofStep s.contracts step).2.Overflows amount ∧
          (s.submit plan).run = .done (.error (.submission
            (.unencodable amount.text ConversionError.tooLarge.message)))) ∧
      ∀ (d : Dialogue) (r : Except Failure Submission), (s.submit plan).run.Course d r →
        ∀ call ∈ d.broadcasts, ∃ data, call.calldata = .ok data := by
  refine ⟨?_, ?_, ?_⟩
  · intro empty
    apply submit_of_check_error
    rw [check, empty]
    rfl
  · intro excess
    obtain ⟨before, step, after, amount, steps, earlier, large⟩ := exists_first_overflow excess
    exact ⟨before, step, after, amount, steps, earlier, large,
      submit_of_check_error (check_of_overflow steps earlier large)⟩
  · intro d r course call among
    obtain ⟨sent, made, all⟩ := encodable_of_submit course
    rw [← map_call_deliveries, made.deliveries_eq] at among
    obtain ⟨x, listed, rfl⟩ := List.mem_map.mp among
    exact all x listed

end Submitter

namespace Scenario

open Submitter

/-- The plan with its steps exchanged, where every amount needs 129 bits. -/
def oversizedPlan : Plan where
  path := [1, 2]
  steps := buyAndExitPlan.steps.reverse.map fun step =>
    { step with amountIn := ⟨2 ^ 128⟩, amountOut := ⟨2 ^ 128⟩ }
  engagement := ⟨2 ^ 128⟩
  output := ⟨2 ^ 128⟩

/-- Of the oversized plan the exit fits and the quantity of the take does not, so nothing is asked.
And the batch of the other plan, with an approval in front of it, can be encoded. -/
theorem submit_encodable_oversized :
    (∃ step ∈ oversizedPlan.steps, ¬ step.Encodes contracts) ∧
      ((trader .direct .standard).submit oversizedPlan).run = .done (.error (.submission
        (.unencodable (⟨2 ^ 128⟩ : Wad).text ConversionError.tooLarge.message))) ∧
      ∃ (d : Dialogue) (r : Except Failure Submission),
        (batcher.submit buyAndExitPlan).run.Course d r ∧ d.broadcasts.length = 1 ∧
        ∀ call ∈ d.broadcasts, ∃ data, call.calldata = .ok data := by
  have excess : ∃ step ∈ oversizedPlan.steps, ¬ step.Encodes contracts := by
    refine ⟨_, List.mem_cons_of_mem _ List.mem_cons_self, ?_⟩
    intro fits
    exact absurd (fits ⟨2 ^ 128⟩ 128 rfl) (by decide)
  have amounts : ∀ step ∈ oversizedPlan.steps,
      (Action.ofStep contracts step).2.sized?.map Prod.fst = some ⟨2 ^ 128⟩ := by decide
  obtain ⟨-, refused, -⟩ := submit_encodable (trader .direct .standard) oversizedPlan
  obtain ⟨before, step, after, amount, steps, -, ⟨bits, sized, -⟩, run⟩ := refused excess
  obtain rfl : amount = ⟨2 ^ 128⟩ := by
    have among := amounts step (steps ▸ List.mem_append_right _ List.mem_cons_self)
    exact Option.some.inj ((congrArg (Option.map Prod.fst) sized).symm.trans among)
  have course := course_transcript Script.answer (batcher.submit buyAndExitPlan).run (unsteady 3)
  obtain ⟨-, -, sent⟩ := submit_encodable batcher buyAndExitPlan
  exact ⟨excess, run, _, _, course, by decide +kernel, sent _ _ course⟩

end Scenario

end Arbitrage
