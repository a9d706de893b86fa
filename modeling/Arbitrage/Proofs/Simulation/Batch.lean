import Arbitrage.Proofs.Simulation.Sweep
import Arbitrage.Submission.Approval

/-!
# Approvals and batches

Raising allowances changes nothing else, and leaves every allowance named at the maximum. A batch
whose caller can hand over what it holds amounts to a sweep to the executor, the executor's
approvals, its calls, and a sweep back (`apply_batch`); whatever goes wrong among the calls is the
outcome of the whole.
-/

namespace Arbitrage.Ledger

variable {l : Ledger} {owner caller executor : Address}

def approveAll (l : Ledger) (owner : Address) (approvals : List Approval) : Ledger :=
  approvals.foldl (fun l a => l.approve a.token owner a.spender Approval.allowance) l

/-- Those of some allowances of an owner that are not at the maximum. -/
def missing (l : Ledger) (owner : Address) (approvals : List Approval) : List Approval :=
  approvals.filter fun a => l.allowance a.token owner a.spender ≠ Approval.allowance

/-- Those of some allowances of an owner that are at the maximum. -/
def raised (l : Ledger) (owner : Address) (approvals : List Approval) : List Approval :=
  approvals.filter fun a => l.allowance a.token owner a.spender = Approval.allowance

theorem approveAll_eq (l : Ledger) (owner : Address) (approvals : List Approval) :
    l.approveAll owner approvals =
      { l with allowances := (l.approveAll owner approvals).allowances } := by
  induction approvals generalizing l with
  | nil => rfl
  | cons a approvals ih =>
      have later := ih (l.approve a.token owner a.spender Approval.allowance)
      exact later

theorem allowance_approveAll (l : Ledger) (owner : Address) (approvals : List Approval)
    (t o s : Address) :
    (l.approveAll owner approvals).allowance t o s =
      if o = owner ∧ ⟨t, s⟩ ∈ approvals then Approval.allowance else l.allowance t o s := by
  induction approvals generalizing l with
  | nil => simp [approveAll]
  | cons a approvals ih =>
      have later := ih (l.approve a.token owner a.spender Approval.allowance)
      rw [allowance_approve] at later
      have step : l.approveAll owner (a :: approvals) =
        (l.approve a.token owner a.spender Approval.allowance).approveAll owner approvals := rfl
      rw [step, later]
      obtain ⟨token, spender⟩ := a
      simp only [List.mem_cons, Approval.mk.injEq]
      grind

/-- Once what is missing has been raised, all of it is at the maximum, and the rest is as before. -/
theorem allowance_approveAll_missing (l : Ledger) (owner : Address) (approvals : List Approval)
    (t o s : Address) :
    (l.approveAll owner (l.missing owner approvals)).allowance t o s =
      if o = owner ∧ ⟨t, s⟩ ∈ approvals then Approval.allowance else l.allowance t o s := by
  rw [allowance_approveAll]
  by_cases before : l.allowance t o s = Approval.allowance
  · simp only [before, ite_self]
  · have lacks : o = owner ∧ ⟨t, s⟩ ∈ l.missing owner approvals ↔
        o = owner ∧ ⟨t, s⟩ ∈ approvals := by
      refine and_congr_right ?_
      rintro rfl
      simp [missing, before]
    simp only [lacks]

theorem allowance_of_mem {approvals : List Approval} {a : Approval} (listed : a ∈ approvals) :
    (l.approveAll owner (l.missing owner approvals)).allowance a.token owner a.spender =
      Approval.allowance := by
  rw [allowance_approveAll_missing]
  exact if_pos ⟨rfl, listed⟩

section Others

variable {other : Address} (apart : other ≠ owner) (approvals others : List Approval)

include apart

theorem missing_approveAll_of_ne :
    (l.approveAll owner approvals).missing other others = l.missing other others := by
  simp only [missing, allowance_approveAll, apart, false_and, if_false]

theorem raised_approveAll_of_ne :
    (l.approveAll owner approvals).raised other others = l.raised other others := by
  simp only [raised, allowance_approveAll, apart, false_and, if_false]

end Others

theorem Sound.approveAll (sound : l.Sound) (owner : Address) (approvals : List Approval) :
    (l.approveAll owner approvals).Sound := by
  rw [approveAll_eq]
  exact ⟨sound.distinct, sound.filed, sound.backed⟩

theorem applyAll_cons (l : Ledger) (caller : Address) (call : Call) (calls : List Call) :
    l.applyAll caller (call :: calls) = (l.apply caller call).bind (·.applyAll caller calls) := by
  rw [applyAll]
  cases l.apply caller call <;> rfl

theorem applyAll_append (l : Ledger) (caller : Address) (calls later : List Call) :
    l.applyAll caller (calls ++ later) =
      (l.applyAll caller calls).bind (·.applyAll caller later) := by
  induction calls generalizing l with
  | nil =>
      rw [List.nil_append, applyAll]
      rfl
  | cons call calls ih =>
      rw [List.cons_append, applyAll_cons, applyAll_cons]
      cases l.apply caller call with
      | error halt => rfl
      | ok l => exact ih l

theorem applyAll_approvals (l : Ledger) (owner : Address) (approvals : List Approval) :
    l.applyAll owner (approvals.map Approval.call) = .ok (l.approveAll owner approvals) := by
  induction approvals generalizing l with
  | nil => rw [List.map_nil, applyAll]; rfl
  | cons a approvals ih =>
      have first : l.apply owner a.call =
          .ok (l.approve a.token owner a.spender Approval.allowance) := by
        rw [Approval.call, Call.approve, apply]
        rfl
      rw [List.map_cons, applyAll_cons, first]
      exact ih _

/-- The parts of a batch: the way out, the invocations, and the way back. -/
theorem apply_batch_eq {tokens : List Address} {invocations : List Call}
    (apart : caller ≠ executor) :
    l.apply caller (.batch executor tokens invocations) =
      ((l.gather caller executor tokens).bind (·.applyAll executor invocations)).map
        (·.sweep executor caller tokens) := by
  rw [apply, if_neg apart]
  cases l.gather caller executor tokens with
  | error halt => rfl
  | ok gathered =>
      dsimp only [Except.bind]
      cases gathered.applyAll executor invocations with
      | error halt => rfl
      | ok made => exact release_eq_sweep made caller executor tokens

/-- What a batch amounts to: pulling the tokens, making the calls in the executor's name, and
handing back what it holds of them. -/
theorem apply_batch {tokens : List Address} {approvals : List Approval} {calls : List Call}
    (apart : caller ≠ executor)
    (can : ∀ t ∈ tokens, l.CanPull t caller executor (l.balance t caller)) :
    l.apply caller (.batch executor tokens (approvals.map Approval.call ++ calls)) =
      (((l.sweep caller executor tokens).approveAll executor approvals).applyAll executor
        calls).map fun m => m.sweep executor caller tokens := by
  rw [apply_batch_eq apart, gather_eq_sweep apart can]
  dsimp only [Except.bind]
  rw [applyAll_append, applyAll_approvals]
  rfl

end Arbitrage.Ledger
