import Arbitrage.Proofs.Contract.Call
import Arbitrage.Proofs.Simulation.Batch
import Arbitrage.Proofs.Simulation.Run

/-!
# Staging approvals on a simulated chain

The keeper's own approvals are read, and those that are missing are raised one by one; on a chain
that is patient enough this always succeeds and changes nothing but allowances (`exists_stageOwn`).
Those of the batch executor are raised in one batch (`exists_stageExecutor`), or only read and left
to the next submission (`yields_missingDownstream`).
-/

namespace Arbitrage

/-- A submitter works on a chain under its addresses: the two agree about the account, the tokens
and the contracts, while a batch executor is the submitter's alone. -/
structure Submitter.Attached (s : Submitter) (c : SimulatedChain) : Prop where
  account : s.account = c.account
  tokens : s.tokens = c.ledger.tokens
  tub : s.contracts.tub = c.ledger.contracts.tub
  tap : s.contracts.tap = c.ledger.contracts.tap
  otc : s.contracts.otc = c.ledger.contracts.otc

theorem Submitter.Attached.protocol {s : Submitter} {c : SimulatedChain} (attached : s.Attached c) :
    s.protocol = Approval.protocol c.ledger.tokens c.ledger.contracts := by
  simp only [Submitter.protocol, Approval.protocol, attached.tokens, attached.tub, attached.tap,
    attached.otc]

namespace SimulatedChain

variable {c c' : SimulatedChain}

theorem yields_split (c : SimulatedChain) (owner : Address) (approvals : List Approval) :
    c.Yields (Approval.split owner approvals).run
      (.ok (c.ledger.missing owner approvals, c.ledger.raised owner approvals)) c := by
  induction approvals with
  | nil => exact yields_ok c _
  | cons a rest ih =>
      have asked := c.yields_allowance a.token owner a.spender
      have result := c.yields_ok
        (if c.ledger.allowance a.token owner a.spender = Approval.allowance
          then (c.ledger.missing owner rest, a :: c.ledger.raised owner rest)
          else (a :: c.ledger.missing owner rest, c.ledger.raised owner rest))
      have sorted : (c.ledger.missing owner (a :: rest), c.ledger.raised owner (a :: rest)) =
          if c.ledger.allowance a.token owner a.spender = Approval.allowance
          then (c.ledger.missing owner rest, a :: c.ledger.raised owner rest)
          else (a :: c.ledger.missing owner rest, c.ledger.raised owner rest) := by
        by_cases raised : c.ledger.allowance a.token owner a.spender = Approval.allowance <;>
          simp [Ledger.missing, Ledger.raised, raised]
      rw [sorted]
      exact asked.attempt (ih.attempt result)

/-- Raising allowances succeeds, takes one transaction each, and does nothing else. -/
theorem exists_raise {s : Submitter} (approvals : List Approval) (account : s.account = c.account)
    (patient : c.Patient s.patience) :
    ∃ c', c.Yields (s.raise approvals).run (.ok ()) c' ∧
      c'.ledger = c.ledger.approveAll c.account approvals ∧
      c'.transactions = c.transactions + approvals.length ∧ c.Follows c' := by
  induction approvals generalizing c with
  | nil => exact ⟨c, yields_ok c (), rfl, rfl, .refl c⟩
  | cons a rest ih =>
      obtain ⟨data, encoded⟩ := Call.encodable_approval a
      have applied : c.ledger.apply c.account a.call =
          .ok (c.ledger.approve a.token c.account a.spender Approval.allowance) := by
        rw [Approval.call, Call.approve, Ledger.apply]
        rfl
      obtain ⟨receipt, c₁, confirmed, success, ledger, sent, follows⟩ :=
        exists_confirm_ok encoded patient applied
      obtain ⟨c', raised, ledger', sent', follows'⟩ :=
        ih (account.trans follows.account.symm) (follows.patient patient)
      refine ⟨c', confirmed.attempt ?_, ?_, ?_, follows.trans follows'⟩
      · simp only [success, if_true]
        exact (c₁.yields_record _).lift.attempt raised
      · rw [ledger', ledger, follows.account]
        rfl
      · rw [sent', sent, List.length_cons]
        omega

/-- Staging its own approvals succeeds, sends those that are missing, and leaves none of them
missing. -/
theorem exists_stageOwn {s : Submitter} (account : s.account = c.account)
    (patient : c.Patient s.patience) :
    ∃ c', c.Yields s.stageOwn.run (.ok ⟨c.ledger.missing c.account s.approvals,
        c.ledger.raised c.account s.approvals⟩) c' ∧
      c'.ledger = c.ledger.approveAll c.account (c.ledger.missing c.account s.approvals) ∧
      c'.transactions = c.transactions + (c.ledger.missing c.account s.approvals).length ∧
      c.Follows c' := by
  have split := c.yields_split c.account s.approvals
  obtain ⟨c', raised, ledger, sent, follows⟩ :=
    exists_raise (c.ledger.missing c.account s.approvals) account patient
  refine ⟨c', ?_, ledger, sent, follows⟩
  rw [Submitter.stageOwn]
  rw [account]
  exact split.attempt (raised.attempt (yields_ok c' _))

theorem yields_stageOwn_idle {s : Submitter} (account : s.account = c.account)
    (idle : c.ledger.missing c.account s.approvals = []) :
    c.Yields s.stageOwn.run (.ok ⟨[], c.ledger.raised c.account s.approvals⟩) c := by
  have split := c.yields_split c.account s.approvals
  rw [idle] at split
  rw [Submitter.stageOwn]
  rw [account]
  exact split.attempt ((yields_ok c ()).attempt (yields_ok c _))

/-- A batch of approvals is made in the name of the executor, and does nothing else. -/
theorem apply_batch_approvals {l : Ledger} {caller executor : Address}
    (apart : caller ≠ executor) (approvals : List Approval) :
    l.apply caller (.batch executor [] (approvals.map Approval.call)) =
      .ok (l.approveAll executor approvals) := by
  have none_can : ∀ t ∈ ([] : List Address), l.CanPull t caller executor (l.balance t caller) := nofun
  have batch : l.apply caller (.batch executor [] (approvals.map Approval.call ++ [])) =
      ((l.approveAll executor approvals).applyAll executor []).map fun m => m :=
    Ledger.apply_batch apart none_can
  rw [List.append_nil, Ledger.applyAll] at batch
  exact batch

theorem yields_stageExecutor_idle {s : Submitter} {executor : Address}
    (idle : c.ledger.missing executor s.protocol = []) :
    c.Yields (s.stageExecutor executor).run (.ok ⟨[], c.ledger.raised executor s.protocol⟩) c := by
  have split := c.yields_split executor s.protocol
  rw [idle] at split
  exact split.attempt (yields_ok c _)

/-- Staging the approvals of the executor takes one transaction, or none if none is missing. -/
theorem exists_stageExecutor {s : Submitter} {executor : Address} (apart : c.account ≠ executor)
    (patient : c.Patient s.patience) :
    ∃ c', c.Yields (s.stageExecutor executor).run (.ok ⟨c.ledger.missing executor s.protocol,
        c.ledger.raised executor s.protocol⟩) c' ∧
      c'.ledger = c.ledger.approveAll executor (c.ledger.missing executor s.protocol) ∧
      c'.transactions = c.transactions +
        (if c.ledger.missing executor s.protocol = [] then 0 else 1) ∧
      c.Follows c' := by
  have split := c.yields_split executor s.protocol
  cases missing : c.ledger.missing executor s.protocol with
  | nil => exact ⟨c, yields_stageExecutor_idle missing, rfl, rfl, .refl c⟩
  | cons a rest =>
      rw [missing] at split
      have encodable : ∀ call ∈ (a :: rest).map Approval.call, call.Encodable := by
        intro call listed
        obtain ⟨b, -, rfl⟩ := List.mem_map.mp listed
        exact Call.encodable_approval b
      obtain ⟨data, encoded⟩ := Call.encodable_batch_iff.mpr encodable
      have applied := apply_batch_approvals (l := c.ledger) apart (a :: rest)
      obtain ⟨receipt, c', confirmed, success, ledger, sent, follows⟩ :=
        exists_confirm_ok encoded patient applied
      refine ⟨c', split.attempt ?_, ledger, sent, follows⟩
      refine confirmed.attempt ?_
      simp only [success, if_true]
      exact yields_ok c' _

section Stage

variable {s : Submitter} {own rest : Staging} {c₁ : SimulatedChain}

theorem yields_stage_direct (mode : s.mode = .direct) (first : c.Yields s.stageOwn.run (.ok own) c') :
    c.Yields s.stage.run (.ok own) c' := by
  rw [Submitter.stage]
  rw [mode]
  refine first.attempt ?_
  refine (yields_ok c' own).attempt ?_
  refine (c'.yields_record _).lift.attempt ?_
  exact yields_ok c' own

theorem yields_stage_batched {executor : Address} (mode : s.mode = .batched executor)
    (first : c.Yields s.stageOwn.run (.ok own) c₁)
    (second : c₁.Yields (s.stageExecutor executor).run (.ok rest) c') :
    c.Yields s.stage.run (.ok ⟨own.written ++ rest.written, own.present ++ rest.present⟩) c' := by
  rw [Submitter.stage]
  rw [mode]
  refine first.attempt ?_
  refine second.attempt ?_
  refine (yields_ok c' _).attempt ?_
  refine (c'.yields_record _).lift.attempt ?_
  exact yields_ok c' _

end Stage

theorem yields_missingDownstream {s : Submitter} {executor : Address}
    (mode : s.mode = .batched executor) :
    c.Yields s.missingDownstream.run
      (.ok ((c.ledger.missing executor s.protocol).map Approval.call)) c := by
  rw [Submitter.missingDownstream]
  rw [mode]
  exact (c.yields_split executor s.protocol).attempt (yields_ok c _)

end SimulatedChain

end Arbitrage
