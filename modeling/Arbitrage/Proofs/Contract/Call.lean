import Arbitrage.Proofs.Contract.Range
import Arbitrage.Proofs.Simulation.Relay
import Arbitrage.Submission.Submitter

/-!
# Calls that can be encoded

The calls that a submitter makes can be encoded where the amounts of its plan fit: an approval always
can, a step if its amount is in range, and a batch if all of its invocations can. The check before a
submission finds the first call that cannot.
-/

namespace Arbitrage

theorem Step.Fits.inRange {step : Step} (fits : step.Fits) (contracts : Contracts) :
    (Action.ofStep contracts step).2.InRange := by
  obtain ⟨amountIn, amountOut, quantity⟩ := fits
  rw [Action.ofStep]
  rintro amount bits sized
  split at sized <;> cases sized
  · exact amountOut
  · exact amountIn
  · exact amountIn
  · exact amountOut
  · next terms => exact quantity (by rw [Edge.orderId?, terms]; rfl)

namespace Call

/-- A step whose amounts fit is a call that has data, whichever contracts it is made for. -/
theorem encodable_ofStep (contracts : Contracts) {step : Step} (fits : step.Fits) :
    (ofStep contracts step).Encodable := encodable_single_iff.mpr (fits.inRange contracts)

theorem encodable_approval (a : Approval) : a.call.Encodable := encodable_single_iff.mpr nofun

end Call

namespace Submitter

variable {calls before after : List Call} {call : Call}

theorem checkCalls_eq_ok_iff : checkCalls calls = .ok () ↔ ∀ call ∈ calls, call.Encodable := by
  induction calls with
  | nil => simp [checkCalls]
  | cons call calls ih =>
      rw [List.forall_mem_cons, ← ih, checkCalls, Call.Encodable]
      cases call.calldata <;> simp

/-- The check ends at the first call that has no data, with the error of that call. -/
theorem checkCalls_of_error {e : SubmissionError} (encodable : ∀ call ∈ before, call.Encodable)
    (failed : call.calldata = .error e) :
    checkCalls (before ++ call :: after) = .error (.submission e) := by
  induction before with
  | nil =>
      rw [List.nil_append, checkCalls, failed]
  | cons first before ih =>
      obtain ⟨⟨data, encoded⟩, others⟩ := List.forall_mem_cons.mp encodable
      rw [List.cons_append, checkCalls, encoded]
      exact ih others

theorem encodable_calls (s : Submitter) {plan : Plan} (fits : plan.Fits) :
    ∀ call ∈ s.calls plan, call.Encodable := by
  intro call listed
  obtain ⟨step, taken, rfl⟩ := List.mem_map.mp listed
  exact Call.encodable_ofStep s.contracts (fits step taken)

theorem check_eq_ok (s : Submitter) {plan : Plan} (nonempty : plan.steps ≠ []) (fits : plan.Fits) :
    s.check plan = .ok () := by
  rw [check]
  rw [if_neg (by simpa using nonempty)]
  exact checkCalls_eq_ok_iff.mpr (s.encodable_calls fits)

end Submitter

end Arbitrage
