import Arbitrage.Proofs.Submission.Agreement
import Arbitrage.Proofs.Submission.Courses
import Arbitrage.World.Script

/-!
# How often an approval is sent

One pass of staging sends no approval twice, but the passes of one submission are tried again as a
whole when they fail in passing, and a wait for a receipt that was given up fails in passing. So an
approval can be sent a second time while the first is still on its way. It happens only after an
approval was given up, and not more often than the patience allows (`submit_repeats`).
-/

namespace Arbitrage

def Call.approves : Call → Option Approval
  | .single token (.approve spender _) => some ⟨token, spender⟩
  | _ => none

@[simp] theorem Call.approves_call (a : Approval) : a.call.approves = some a := rfl

@[simp] theorem Call.approves_batch (executor : Address) (tokens : List Address) (calls : List Call) :
    (Call.batch executor tokens calls).approves = none := rfl

@[simp] theorem Call.approves_ofStep (contracts : Contracts) (step : Step) :
    (Call.ofStep contracts step).approves = none := by
  rw [ofStep, Action.ofStep]
  split <;> rfl

namespace World.Delivery

/-- Nothing more is tried for this call, for a reason that may pass. -/
def GivenUp (x : Delivery) : Prop := ∃ e, x.outcome = some (.error e) ∧ e.isTransient = true

end World.Delivery

open World Process World.Dialogue

/-- An approval is delivered again only after a delivery, its own or a later one, was given up. -/
def Excused (a : Approval) (sent : List Delivery) : Prop :=
  ∀ (i j : Nat) (x y : Delivery), i < j → sent[i]? = some x → sent[j]? = some y →
    x.call.approves = some a → y.call.approves = some a →
    ∃ k z, i ≤ k ∧ k < j ∧ sent[k]? = some z ∧ z.GivenUp

namespace Excused

variable {a : Approval} {sent first later : List Delivery}

theorem nil : Excused a [] := by
  intro i j x y _ none
  cases none

theorem of_nodup (distinct : (sent.map fun x => x.call.approves).Nodup) : Excused a sent := by
  intro i j x y before at_i at_j is_a still_a
  have bound : i < (sent.map fun x => x.call.approves).length := by
    rw [List.length_map]
    exact (List.getElem?_eq_some_iff.mp at_i).1
  have same : i = j := (List.getElem?_inj bound distinct).mp (by simp [at_i, at_j, is_a, still_a])
  omega

/-- What is known of the first deliveries stays known when others follow. -/
theorem among_first (excused : Excused a first) {i j : Nat} {x y : Delivery} (before : i < j)
    (early : j < first.length) (at_i : (first ++ later)[i]? = some x)
    (at_j : (first ++ later)[j]? = some y) (is_a : x.call.approves = some a)
    (still_a : y.call.approves = some a) :
    ∃ k z, i ≤ k ∧ k < j ∧ (first ++ later)[k]? = some z ∧ z.GivenUp := by
  rw [List.getElem?_append_left (by omega)] at at_i
  rw [List.getElem?_append_left early] at at_j
  obtain ⟨k, z, from_i, until_j, at_k, given⟩ := excused i j x y before at_i at_j is_a still_a
  exact ⟨k, z, from_i, until_j, by rwa [List.getElem?_append_left (by omega)], given⟩

/-- What comes after a delivery that was given up may repeat what came before it. -/
theorem append (excused : Excused a first) (rest : Excused a later)
    (lost : first = [] ∨ ∃ x, first.getLast? = some x ∧ x.GivenUp) : Excused a (first ++ later) := by
  intro i j x y before at_i at_j is_a still_a
  by_cases early : j < first.length
  · exact excused.among_first before early at_i at_j is_a still_a
  by_cases late : first.length ≤ i
  · rw [List.getElem?_append_right late] at at_i
    rw [List.getElem?_append_right (by omega)] at at_j
    obtain ⟨k, z, from_i, until_j, at_k, given⟩ :=
      rest (i - first.length) (j - first.length) x y (by omega) at_i at_j is_a still_a
    refine ⟨first.length + k, z, by omega, by omega, ?_, given⟩
    rw [List.getElem?_append_right (by omega), Nat.add_sub_cancel_left]
    exact at_k
  -- The two lie in different parts, so the last delivery of the first part is between them.
  · obtain rfl | ⟨z, last, given⟩ := lost
    · simp at late
    · rw [List.getLast?_eq_getElem?] at last
      refine ⟨first.length - 1, z, by omega, by omega, ?_, given⟩
      rwa [List.getElem?_append_left (by omega)]

theorem append_other (excused : Excused a first) (other : ∀ x ∈ later, x.call.approves = none) :
    Excused a (first ++ later) := by
  intro i j x y before at_i at_j is_a still_a
  by_cases early : j < first.length
  · exact excused.among_first before early at_i at_j is_a still_a
  · rw [List.getElem?_append_right (by omega)] at at_j
    rw [other y (List.mem_of_getElem? at_j)] at still_a
    cases still_a

end Excused

namespace Submitter

variable {s : Submitter} {plan : Plan} {d : Dialogue}

theorem nodup_of_stageOwn {r : Except Failure Staging} (distinct : s.approvals.Nodup)
    (course : s.stageOwn.run.Course d r) :
    ∃ sent : List Delivery, Delivers d sent ∧ (sent.map fun x => x.call.approves).Nodup ∧
      ∀ e, r = .error e → e.isTransient = true →
        sent = [] ∨ ∃ x, sent.getLast? = some x ∧ x.GivenUp := by
  obtain ⟨sent, missing, made, part, calls, lost⟩ := course_stageOwn course
  refine ⟨sent, made, ?_, ?_⟩
  · have all : (missing.map some).Nodup :=
      (distinct.sublist part).map (Option.some_injective Approval)
    have some_of : (sent.map fun x => x.call.approves) <+: missing.map some := by
      simpa [List.map_map, Function.comp_def] using calls.map Call.approves
    exact all.sublist some_of.sublist
  · intro e same transient
    refine (lost e same transient).imp_right ?_
    rintro ⟨x, last, outcome⟩
    exact ⟨x, last, e, outcome, transient⟩

/-- How often an approval is among some deliveries. -/
def timesSent (a : Approval) (sent : List Delivery) : Nat :=
  (sent.map fun x => x.call.approves).count (some a)

/-- All passes of staging together send an approval at most once for each attempt, and again only
after one was given up. -/
theorem repeats_of_staging {activity : String} {r : Except Failure Staging}
    (distinct : s.approvals.Nodup)
    (course : (persist s.patience activity s.stageOwn).run.Course d r) :
    ∃ sent, Delivers d sent ∧ ∀ a, Excused a sent ∧
      timesSent a sent ≤ max s.patience.attempts 1 := by
  have passes : ∃ sent, Delivers d sent ∧ ∀ a, Excused a sent ∧
      timesSent a sent ≤ (s.patience.attempts - 1) + 1 := by
    refine course_persistFrom (P := fun left d _ => ∃ sent, Delivers d sent ∧ ∀ a, Excused a sent ∧
      timesSent a sent ≤ left + 1) ?_ ?_ course
    · intro left d r tried
      obtain ⟨sent, made, nodup, -⟩ := nodup_of_stageOwn distinct tried
      refine ⟨sent, made, fun a => ⟨.of_nodup nodup, ?_⟩⟩
      have once : timesSent a sent ≤ 1 := List.nodup_iff_count_le_one.mp nodup _
      omega
    · rintro left d e event delay later r tried transient ⟨rest, made', excused⟩
      obtain ⟨sent, made, nodup, lost⟩ := nodup_of_stageOwn distinct tried
      refine ⟨sent ++ rest, delivers_retried made made' event delay, fun a => ⟨?_, ?_⟩⟩
      · exact (Excused.of_nodup nodup).append (excused a).1 (lost e rfl transient)
      · have once : timesSent a sent ≤ 1 := List.nodup_iff_count_le_one.mp nodup _
        have more := (excused a).2
        simp only [timesSent, List.map_append, List.count_append] at once more ⊢
        omega
  obtain ⟨sent, made, excused⟩ := passes
  refine ⟨sent, made, fun a => ⟨(excused a).1, ?_⟩⟩
  have bound := (excused a).2
  omega

theorem delivers_afterStaging {r : Except Failure Submission}
    (course : (s.afterStaging plan).run.Course d r) :
    ∃ sent : List Delivery, Delivers d sent ∧ ∀ x ∈ sent, x.call.approves = none := by
  cases mode : s.mode with
  | direct =>
      obtain ⟨sent, r', made, steps, rfl⟩ := course_afterStaging_direct mode course
      refine ⟨sent, made, ?_⟩
      intro x among
      have listed := steps.calls_prefix.subset (List.mem_map_of_mem among)
      obtain ⟨step, -, same⟩ := List.mem_map.mp listed
      rw [← same, Call.approves_ofStep]
  | batched executor =>
      obtain ⟨e, failed, rfl⟩ | ⟨_, approvals, _, rfl, found, rest⟩ :=
        course_afterStaging_batched mode course
      · exact ⟨[], (course_missingDownstream mode failed).1, nofun⟩
      · obtain ⟨hash, outcome, r', made, -, -⟩ := course_afterChecking rest
        refine ⟨_, (course_missingDownstream mode found).1.append made, ?_⟩
        simp

/-- A submission sends an approval again only after an approval was given up, and in all no more often
than its patience has attempts. -/
theorem submit_repeats {r : Except Failure Submission} (distinct : s.approvals.Nodup)
    (course : (s.submit plan).run.Course d r) (a : Approval) :
    Excused a d.deliveries ∧
      (d.broadcasts.map Call.approves).count (some a) ≤ max s.patience.attempts 1 := by
  have known : ∃ sent, Delivers d sent ∧ Excused a sent ∧
      timesSent a sent ≤ max s.patience.attempts 1 := by
    obtain ⟨e, -, rfl, -⟩ | ⟨e, failed, -⟩ | ⟨_, staging, _, rfl, staged, after⟩ :=
      course_submit course
    · exact ⟨[], .nil, .nil, Nat.zero_le _⟩
    · obtain ⟨sent, made, excused⟩ := repeats_of_staging distinct failed
      exact ⟨sent, made, excused a⟩
    · obtain ⟨sent, made, excused⟩ := repeats_of_staging distinct staged
      obtain ⟨rest, made', other⟩ := delivers_afterStaging after
      refine ⟨sent ++ rest, made.append made', (excused a).1.append_other other, ?_⟩
      have none : timesSent a rest = 0 := by
        rw [timesSent, List.count_eq_zero]
        intro among
        obtain ⟨x, listed, same⟩ := List.mem_map.mp among
        rw [other x listed] at same
        cases same
      have bound := (excused a).2
      simp only [timesSent, List.map_append, List.count_append] at none bound ⊢
      omega
  obtain ⟨sent, made, excused, bound⟩ := known
  rw [← map_call_deliveries, made.deliveries_eq, List.map_map]
  exact ⟨excused, bound⟩

end Submitter

namespace Scenario

def insistent : Submitter := trader .direct ⟨2, .ofMillis 1⟩

def firstApproval : Approval := ⟨tokens.gem, contracts.tub⟩

/-- A world that finds the first allowance below the maximum, loses the next two waits for a receipt,
and finds the allowance below the maximum again. -/
def unmined : Script where
  tokens := tokens
  vaults := { standing := .ok vault }
  balance := .ofUnits 1000
  allowances := ⟨.ok 0 :: List.replicate 6 (.ok Word.max) ++ [.ok 0], .ok Word.max⟩
  receipts := ⟨List.replicate 2 (.error (.chain (.receiptNotFound ""))), .ok ⟨0, none, 21000, true⟩⟩

def unminedDialogue : Dialogue := (insistent.submit buyAndExitPlan).run.transcript Script.answer unmined

theorem course_unmined :
    ∃ submission, (insistent.submit buyAndExitPlan).run.Course unminedDialogue (.ok submission) := by
  have told : ((insistent.submit buyAndExitPlan).run.run Script.answer unmined).1 = .ok ⟨.direct,
      [⟨Script.hashOf 3, none, 21000, true⟩, ⟨Script.hashOf 4, none, 21000, true⟩], 2⟩ := by
    decide +kernel
  have course := course_of_run Script.answer (p := (insistent.submit buyAndExitPlan).run) told
  exact ⟨_, course⟩

end Scenario

namespace Submitter

open Scenario

/-- The first delivery of the approval was given up, and two attempts allow for a second one. -/
theorem submit_repeats_unmined : insistent.approvals.Nodup ∧
    Excused firstApproval unminedDialogue.deliveries ∧
      (unminedDialogue.broadcasts.map Call.approves).count (some firstApproval) ≤ 2 := by
  have distinct : insistent.approvals.Nodup := by decide
  obtain ⟨_, course⟩ := course_unmined
  exact ⟨distinct, submit_repeats distinct course firstApproval⟩

/-- An approval that is not mined while its receipt is waited for is sent a second time. -/
theorem submit_repeats_approval : insistent.approvals.Nodup ∧
    ∃ (d : Dialogue) (submission : Submission),
      (insistent.submit buyAndExitPlan).run.Course d (.ok submission) ∧
      (d.broadcasts.map Call.approves).count (some firstApproval) = 2 := by
  obtain ⟨submission, course⟩ := course_unmined
  exact ⟨by decide, unminedDialogue, submission, course, by decide +kernel⟩

end Submitter

end Arbitrage
