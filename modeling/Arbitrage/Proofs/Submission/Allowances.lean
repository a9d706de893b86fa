import Arbitrage.Proofs.Submission.Staging
import Arbitrage.Simulation.Scenario

/-!
# What staging makes of the allowances

A mode needs some approvals of the keeper, and in batched mode some more of the batch executor. One
pass of staging raises those of them that are below the maximum, and touches no other allowance. It
sends no more than it must, and what it tells of the approvals is what it found. After it nothing is
left to raise: another pass sends nothing, and no batch has to carry approvals.

Approvals are counted as they are listed. Where two contracts share an address one allowance is
listed, read, and if need be raised, twice.
-/

namespace Arbitrage

namespace Submitter

/-- The approvals that the batch executor needs, if there is one, with it as their owner. -/
def downstream (s : Submitter) : List (Address × Approval) :=
  match s.mode with
  | .direct => []
  | .batched executor => s.protocol.map (executor, ·)

/-- Every approval that the mode needs, with its owner: the keeper, and in batched mode the executor
too. -/
def needs (s : Submitter) : List (Address × Approval) :=
  s.approvals.map (s.account, ·) ++ s.downstream

def Apart (s : Submitter) : Prop := ∀ executor, s.mode = .batched executor → executor ≠ s.account

end Submitter

namespace Ledger

variable {l m : Ledger} {owner : Address} {approvals : List Approval}

def allowed (l : Ledger) (x : Address × Approval) : Word := l.allowance x.2.token x.1 x.2.spender

def below (l : Ledger) (pairs : List (Address × Approval)) : List (Address × Approval) :=
  pairs.filter fun x => (l.allowed x).toNat < 2 ^ 256 - 1

def atMost (l : Ledger) (pairs : List (Address × Approval)) : List (Address × Approval) :=
  pairs.filter fun x => (l.allowed x).toNat = 2 ^ 256 - 1

theorem eq_allowance_iff {w : Word} : w = Approval.allowance ↔ w.toNat = 2 ^ 256 - 1 := by
  rw [← BitVec.toNat_inj]
  rfl

theorem ne_allowance_iff {w : Word} : w ≠ Approval.allowance ↔ w.toNat < 2 ^ 256 - 1 := by
  have bound := w.isLt
  rw [Ne, eq_allowance_iff]
  omega

theorem below_map (l : Ledger) (owner : Address) (approvals : List Approval) :
    l.below (approvals.map (owner, ·)) = (l.missing owner approvals).map (owner, ·) := by
  simp only [below, missing, List.filter_map, ne_allowance_iff]
  rfl

theorem atMost_map (l : Ledger) (owner : Address) (approvals : List Approval) :
    l.atMost (approvals.map (owner, ·)) = (l.raised owner approvals).map (owner, ·) := by
  simp only [atMost, raised, List.filter_map, eq_allowance_iff]
  rfl

theorem map_snd_map (owner : Address) (approvals : List Approval) :
    (approvals.map (owner, ·)).map Prod.snd = approvals := by
  rw [List.map_map]
  exact List.map_id approvals

theorem below_append (l : Ledger) (pairs more : List (Address × Approval)) :
    l.below (pairs ++ more) = l.below pairs ++ l.below more := List.filter_append ..

theorem atMost_append (l : Ledger) (pairs more : List (Address × Approval)) :
    l.atMost (pairs ++ more) = l.atMost pairs ++ l.atMost more := List.filter_append ..

theorem below_append_atMost_perm (l : Ledger) (pairs : List (Address × Approval)) :
    (l.below pairs ++ l.atMost pairs).Perm pairs := by
  have otherwise : l.atMost pairs =
      pairs.filter fun x => !decide ((l.allowed x).toNat < 2 ^ 256 - 1) := by
    refine List.filter_congr ?_
    intro x _
    have bound := (l.allowed x).isLt
    rw [← decide_not, decide_eq_decide]
    omega
  rw [otherwise]
  exact List.filter_append_perm _ pairs

theorem mem_map_owner_iff {o : Address} {a : Approval} :
    (o, a) ∈ approvals.map (owner, ·) ↔ o = owner ∧ a ∈ approvals := by
  rw [List.mem_map]
  constructor
  · rintro ⟨b, listed, same⟩
    cases same
    exact ⟨rfl, listed⟩
  · rintro ⟨rfl, listed⟩
    exact ⟨a, listed, rfl⟩

/-- Some approvals have been raised to the maximum, and nothing else has been touched. -/
structure Tops (pairs : List (Address × Approval)) (l m : Ledger) : Prop where
  allowed : ∀ x, m.allowed x = if x ∈ pairs then Approval.allowance else l.allowed x
  ledger : m = { l with allowances := m.allowances }

theorem tops_approveAll_missing (l : Ledger) (owner : Address) (approvals : List Approval) :
    Tops (approvals.map (owner, ·)) l (l.approveAll owner (l.missing owner approvals)) := by
  refine ⟨?_, approveAll_eq ..⟩
  rintro ⟨o, a⟩
  simp only [mem_map_owner_iff]
  exact l.allowance_approveAll_missing owner approvals a.token o a.spender

theorem Tops.append {pairs more : List (Address × Approval)} {n : Ledger} (first : Tops pairs l m)
    (second : Tops more m n) : Tops (pairs ++ more) l n := by
  refine ⟨?_, ?_⟩
  · intro x
    rw [second.allowed, first.allowed]
    by_cases later : x ∈ more <;> by_cases before : x ∈ pairs <;> simp [later, before]
  · rw [second.ledger, first.ledger]

theorem Tops.toNat_allowed {pairs : List (Address × Approval)} {x : Address × Approval}
    (tops : Tops pairs l m) (listed : x ∈ pairs) : (m.allowed x).toNat = 2 ^ 256 - 1 := by
  rw [tops.allowed, if_pos listed]
  rfl

theorem Tops.below_eq_nil {pairs : List (Address × Approval)} (tops : Tops pairs l m) :
    m.below pairs = [] := by
  refine List.filter_eq_nil_iff.mpr ?_
  intro x listed
  simp [tops.toNat_allowed listed]

end Ledger

namespace SimulatedChain

variable {c c' : SimulatedChain} {s : Submitter}

/-- What one pass of staging made of a chain, and what it told. -/
structure StagedBy (s : Submitter) (c : SimulatedChain) (staging : Staging) (c' : SimulatedChain) :
    Prop where
  /-- Nothing that the mode needs is below the maximum. -/
  complete : ∀ x ∈ s.needs, (c'.ledger.allowed x).toNat = 2 ^ 256 - 1
  /-- Every other allowance is as it was. -/
  frame : ∀ x, x ∉ s.needs → c'.ledger.allowed x = c.ledger.allowed x
  /-- Only allowances are touched. -/
  ledger : c'.ledger = { c.ledger with allowances := c'.ledger.allowances }
  /-- The keeper's approvals take one transaction each, those of the executor one together. -/
  minimal : c'.transactions = c.transactions +
    (c.ledger.below (s.approvals.map (s.account, ·))).length +
    if c.ledger.below s.downstream = [] then 0 else 1
  written : staging.written = (c.ledger.below s.needs).map Prod.snd
  present : staging.present = (c.ledger.atMost s.needs).map Prod.snd
  listed : (staging.written ++ staging.present).Perm (s.needs.map Prod.snd)

section Needs

variable {executor : Address}

theorem downstream_direct (mode : s.mode = .direct) : s.downstream = [] := by
  rw [Submitter.downstream, mode]

theorem downstream_batched (mode : s.mode = .batched executor) :
    s.downstream = s.protocol.map (executor, ·) := by
  rw [Submitter.downstream, mode]

theorem needs_direct (mode : s.mode = .direct) : s.needs = s.approvals.map (s.account, ·) := by
  rw [Submitter.needs, downstream_direct mode, List.append_nil]

theorem needs_batched (mode : s.mode = .batched executor) :
    s.needs = s.approvals.map (s.account, ·) ++ s.protocol.map (executor, ·) := by
  rw [Submitter.needs, downstream_batched mode]

end Needs

/-- Staging raises what the mode needs, counts what it sends, and tells of all that it found. -/
theorem exists_stage (account : s.account = c.account) (apart : s.Apart)
    (patient : c.Patient s.patience) :
    ∃ c', c.Yields s.stage.run (.ok ⟨(c.ledger.below s.needs).map Prod.snd,
        (c.ledger.atMost s.needs).map Prod.snd⟩) c' ∧
      Ledger.Tops s.needs c.ledger c'.ledger ∧
      c'.transactions = c.transactions +
        (c.ledger.below (s.approvals.map (s.account, ·))).length +
        (if c.ledger.below s.downstream = [] then 0 else 1) ∧
      c.Follows c' := by
  obtain ⟨c₁, own, ledger, sent, follows⟩ := exists_stageOwn account patient
  have tops := c.ledger.tops_approveAll_missing c.account s.approvals
  rw [← ledger, ← account] at tops
  rw [← account] at own sent
  cases mode : s.mode with
  | direct =>
      refine ⟨c₁, ?_, ?_, ?_, follows⟩
      · have told := yields_stage_direct mode own
        rw [needs_direct mode, Ledger.below_map, Ledger.atMost_map, Ledger.map_snd_map,
          Ledger.map_snd_map]
        exact told
      · rw [needs_direct mode]
        exact tops
      · rw [downstream_direct mode, sent, Ledger.below_map, List.length_map]
        rfl
  | batched executor =>
      have other : executor ≠ s.account := apart executor mode
      obtain ⟨c', rest, ledger', sent', follows'⟩ := exists_stageExecutor (s := s) (c := c₁)
        (by rw [follows.account, ← account]; exact other.symm) (follows.patient patient)
      have tops' := c₁.ledger.tops_approveAll_missing executor s.protocol
      rw [← ledger'] at tops'
      -- The executor owns other allowances than the keeper, so it lacks what it lacked at first.
      rw [ledger, ← account, Ledger.missing_approveAll_of_ne other] at rest sent'
      rw [Ledger.raised_approveAll_of_ne other] at rest
      refine ⟨c', ?_, ?_, ?_, follows.trans follows'⟩
      · have told := yields_stage_batched mode own rest
        rw [needs_batched mode, Ledger.below_append, Ledger.atMost_append, List.map_append,
          List.map_append]
        simp only [Ledger.below_map, Ledger.atMost_map, Ledger.map_snd_map]
        exact told
      · rw [needs_batched mode]
        exact tops.append tops'
      · rw [downstream_batched mode, sent', sent, Ledger.below_map, Ledger.below_map, List.length_map]
        simp only [List.map_eq_nil_iff]

/-- Staging sends nothing where nothing that the mode needs is below the maximum. -/
theorem yields_stage_idle (account : s.account = c.account) (idle : c.ledger.below s.needs = []) :
    c.Yields s.stage.run (.ok ⟨[], (c.ledger.atMost s.needs).map Prod.snd⟩) c := by
  cases mode : s.mode with
  | direct =>
      rw [needs_direct mode, Ledger.below_map, List.map_eq_nil_iff] at idle
      rw [account] at idle
      have told := yields_stage_direct mode (yields_stageOwn_idle account idle)
      rw [needs_direct mode, Ledger.atMost_map, Ledger.map_snd_map]
      rw [account]
      exact told
  | batched executor =>
      rw [needs_batched mode, Ledger.below_append, List.append_eq_nil_iff, Ledger.below_map,
        Ledger.below_map, List.map_eq_nil_iff, List.map_eq_nil_iff] at idle
      rw [account] at idle
      have told := yields_stage_batched mode (yields_stageOwn_idle account idle.1)
        (yields_stageExecutor_idle idle.2)
      rw [needs_batched mode, Ledger.atMost_append, List.map_append, Ledger.atMost_map,
        Ledger.atMost_map, Ledger.map_snd_map, Ledger.map_snd_map]
      rw [account]
      exact told

theorem yields_missingDownstream_idle (idle : c.ledger.below s.needs = []) :
    c.Yields s.missingDownstream.run (.ok []) c := by
  cases mode : s.mode with
  | direct =>
      rw [Submitter.missingDownstream, mode]
      exact yields_ok c []
  | batched executor =>
      rw [needs_batched mode, Ledger.below_append, List.append_eq_nil_iff, Ledger.below_map,
        Ledger.below_map, List.map_eq_nil_iff, List.map_eq_nil_iff] at idle
      have told := yields_missingDownstream (c := c) mode
      rw [idle.2] at told
      exact told

/-- On a chain whose waits for receipts fail less often than the submitter tries, staging succeeds
and has done all it must, and nothing else. Afterwards it sends nothing and writes nothing any more,
and no batch has to carry an approval. -/
theorem stage_settles (account : s.account = c.account) (apart : s.Apart)
    (patient : c.Patient s.patience) :
    ∃ staging c', c.Yields s.stage.run (.ok staging) c' ∧ StagedBy s c staging c' ∧
      (∃ again, c'.Yields s.stage.run (.ok again) c' ∧ again.written = []) ∧
      c'.Yields s.missingDownstream.run (.ok []) c' := by
  obtain ⟨c', staged, tops, sent, follows⟩ := exists_stage account apart patient
  have idle := tops.below_eq_nil
  have listed := (c.ledger.below_append_atMost_perm s.needs).map Prod.snd
  rw [List.map_append] at listed
  refine ⟨_, c', staged, ⟨?_, ?_, tops.ledger, sent, rfl, rfl, listed⟩, ?_, ?_⟩
  · intro x needed
    exact tops.toNat_allowed needed
  · intro x other
    rw [tops.allowed, if_neg other]
  · exact ⟨_, yields_stage_idle (account.trans follows.account.symm) idle, rfl⟩
  · exact yields_missingDownstream_idle idle

end SimulatedChain

namespace Scenario

/-- A keeper that has approved gem, and nothing else, for the batch executor. Two waits for receipts
will fail. -/
def halfApproved : SimulatedChain where
  account := keeper
  ledger := base.chain.ledger.approve tokens.gem keeper executor Approval.allowance
  failingReceipts := 2

def approver : Submitter := ⟨keeper, tokens, contracts, .batched executor, .standard⟩

end Scenario

namespace SimulatedChain

open Scenario

/-- Two approvals of the keeper and one batch with seven of the executor. -/
theorem stage_settles_halfApproved :
    approver.account = halfApproved.account ∧ approver.Apart ∧
      halfApproved.Patient approver.patience ∧
      ∃ staging c', halfApproved.Yields approver.stage.run (.ok staging) c' ∧
        staging.written.length = 9 ∧ staging.present = [⟨tokens.gem, executor⟩] ∧
        c'.transactions = 3 ∧ c'.Yields approver.missingDownstream.run (.ok []) c' := by
  have apart : approver.Apart := by
    intro executor mode
    cases mode
    decide
  have patient : halfApproved.Patient approver.patience := by
    unfold Patient
    decide
  obtain ⟨staging, c', staged, settled, -, ready⟩ := stage_settles (s := approver) rfl apart patient
  refine ⟨rfl, apart, patient, staging, c', staged, ?_, ?_, ?_, ready⟩
  · rw [settled.written]
    decide +kernel
  · rw [settled.present]
    decide +kernel
  · rw [settled.minimal]
    decide +kernel

end SimulatedChain

end Arbitrage
