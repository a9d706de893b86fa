import Arbitrage.Chain.Persistence
import Arbitrage.Simulation.Chain

/-!
# Work on a simulated chain

`c.Yields p a c'` says that work put to the chain `c` comes to the result `a` and leaves the chain
`c'`. It composes along the work (`Yields.bind`, and for work that may fail `Yields.attempt` and
`Yields.attempt_error`), so the run of a procedure is put together from those of its parts. What the
chain answers to the single questions comes first; a transaction that is sent with patience is
mined, and its receipt is found although some waits for it fail.
-/

namespace Arbitrage.SimulatedChain

variable {α β : Type} {c c' c'' : SimulatedChain}

/-- Work on a chain comes to a result and leaves another chain. -/
def Yields (c : SimulatedChain) (p : Work α) (a : α) (c' : SimulatedChain) : Prop :=
  p.run answer c = .ok (a, c')

/-- Whatever is computed of a run is so of its result and of the chain that it leaves. -/
theorem Yields.map_eq {p : Work α} {a : α} {f : α × SimulatedChain → β} {b : β}
    (run : c.Yields p a c') (computed : (p.run answer c).map f = .ok b) : f (a, c') = b := by
  rw [Yields] at run
  rw [run] at computed
  exact Except.ok.inj computed

theorem yields_pure (c : SimulatedChain) (a : α) : c.Yields (pure a) a c := rfl

theorem Yields.bind {p : Work α} {f : α → Work β} {a : α} {b : β} (first : c.Yields p a c')
    (next : c'.Yields (f a) b c'') : c.Yields (p >>= f) b c'' := by
  have split : (p >>= f).run answer c = p.run answer c >>= fun r => (f r.1).run answer r.2 :=
    congrFun (Process.run_bind answer p f) c
  simp only [Yields] at first next ⊢
  rw [split, first]
  exact next

section Attempts

variable {x : Attempt α} {f : α → Attempt β} {a : α} {e : Failure} {r : Except Failure β}

theorem yields_ok (c : SimulatedChain) (a : α) : c.Yields (pure a : Attempt α).run (.ok a) c := rfl

theorem yields_throw (c : SimulatedChain) (e : Failure) :
    c.Yields (throw e : Attempt α).run (.error e) c := rfl

theorem Yields.attempt (first : c.Yields x.run (.ok a) c') (next : c'.Yields (f a).run r c'') :
    c.Yields (x >>= f).run r c'' :=
  first.bind next

theorem Yields.attempt_error (first : c.Yields x.run (.error e) c') :
    c.Yields (x >>= f).run (.error e) c' :=
  first.bind (yields_pure c' _)

theorem Yields.lift {p : Work α} (first : c.Yields p a c') :
    c.Yields (liftM p : Attempt α).run (.ok a) c' :=
  first.bind (yields_pure c' _)

end Attempts

section Questions

variable (c : SimulatedChain)

/-- A call that is sent gets the answer of the chain. -/
theorem yields_broadcast {call : Call} {r : Except Failure Word}
    (sent : c.broadcast call = .ok (r, c')) : c.Yields (World.broadcast call).run r c' := by
  change (c.broadcast call >>= fun r => .ok (r.1, r.2)) = _
  rw [sent]
  rfl

theorem yields_record (event : Event) : c.Yields (World.record event) () c := rfl

theorem yields_enter (phase : Phase) : c.Yields (World.enter phase) () c := rfl

theorem yields_sleep (delay : Duration) : c.Yields (World.sleep delay) () c := rfl

theorem yields_allowance (token owner spender : Address) :
    c.Yields (World.allowance token owner spender).run
      (.ok (c.ledger.allowance token owner spender)) c := rfl

theorem yields_receipt (hash : Word) :
    c.Yields (World.receipt hash).run (c.receipt hash).1 (c.receipt hash).2 := rfl

theorem yields_vault (calm : c.failingReads = 0) :
    c.Yields World.vault.run (.ok c.ledger.vault) c := by
  have read : c.readVault = (.ok c.ledger.vault, c) := if_neg (by omega)
  change Except.ok c.readVault = _
  rw [read]

theorem yields_orders : c.Yields World.orders.run (.ok c.ledger.book) c := rfl

theorem yields_balance (token owner : Address) :
    c.Yields (World.balance token owner).run (.ok (c.ledger.balance token owner)) c := rfl

end Questions

theorem Yields.persist {work : Attempt α} {a : α} (first : c.Yields work.run (.ok a) c')
    (patience : Patience) (activity : String) :
    c.Yields (persist patience activity work).run (.ok a) c' := by
  rw [Arbitrage.persist]
  cases patience.attempts - 1 with
  | zero => exact first
  | succ left => exact first.bind (yields_pure c' _)

theorem yields_receipt_of_calm {hash : Word} {receipt : Receipt} (calm : c.failingReceipts = 0)
    (found : c.receipts.find? (·.hash == hash) = some receipt) :
    c.Yields (World.receipt hash).run (.ok receipt) { c with failingReceipts := 0 } := by
  have same : { c with failingReceipts := 0 } = c := by rw [← calm]
  have read : c.receipt hash = (.ok receipt, c) := by
    simp only [SimulatedChain.receipt, found]
    exact if_neg (by omega)
  have asked := c.yields_receipt hash
  rw [read] at asked
  rw [same]
  exact asked

theorem yields_receipt_of_failing (c : SimulatedChain) (hash : Word) (failing : 0 < c.failingReceipts) :
    c.Yields (World.receipt hash).run (.error (.chain (.receiptNotFound hash.hex)))
      { c with failingReceipts := c.failingReceipts - 1 } := by
  have read : c.receipt hash = (.error (.chain (.receiptNotFound hash.hex)),
      { c with failingReceipts := c.failingReceipts - 1 }) := if_pos failing
  have asked := c.yields_receipt hash
  rw [read] at asked
  exact asked

/-- A receipt that is there is found once the waits that fail are over. -/
theorem yields_persist_receipt {hash : Word} {receipt : Receipt} (patience : Patience)
    (activity : String) (left retry : Nat) (few : c.failingReceipts ≤ left)
    (found : c.receipts.find? (·.hash == hash) = some receipt) :
    c.Yields (persistFrom patience activity (World.receipt hash) left retry).run (.ok receipt)
      { c with failingReceipts := 0 } := by
  induction left generalizing c retry with
  | zero => exact yields_receipt_of_calm (by omega) found
  | succ left ih =>
      by_cases calm : c.failingReceipts = 0
      · exact (yields_receipt_of_calm calm found).bind (yields_pure _ _)
      · let spent : SimulatedChain := { c with failingReceipts := c.failingReceipts - 1 }
        have asked := c.yields_receipt_of_failing hash (by omega)
        have later := ih (c := spent) (retry + 1) (by simp only [spent]; omega) found
        exact asked.bind ((yields_record _ _).bind ((yields_sleep _ _).bind later))

/-- Once every wait for it has failed a receipt is given up, whether it is there or not. -/
theorem exists_persist_receipt_lost (hash : Word) (patience : Patience) (activity : String)
    (left retry : Nat) (many : left < c.failingReceipts) :
    ∃ c', c.Yields (persistFrom patience activity (World.receipt hash) left retry).run
      (.error (.chain (.receiptNotFound hash.hex))) c' ∧ c'.ledger = c.ledger := by
  have asked := c.yields_receipt_of_failing hash (by omega)
  induction left generalizing c retry with
  | zero => exact ⟨_, asked, rfl⟩
  | succ left ih =>
      let spent : SimulatedChain := { c with failingReceipts := c.failingReceipts - 1 }
      have still : left < spent.failingReceipts := by simp only [spent]; omega
      obtain ⟨c', later, ledger⟩ :=
        ih (c := spent) (retry + 1) still (spent.yields_receipt_of_failing hash (by omega))
      exact ⟨c', asked.bind ((yields_record _ _).bind ((yields_sleep _ _).bind later)), ledger⟩

/-- What a call leaves of the ledger, if it does not revert. -/
def effect? (c : SimulatedChain) (call : Call) : Option Ledger := (c.ledger.apply c.account call).toOption

/-- Fewer waits for receipts are still to fail than a patience has attempts. -/
def Patient (c : SimulatedChain) (patience : Patience) : Prop :=
  c.failingReceipts < max patience.attempts 1

/-- A call that can be encoded is mined, whether it takes effect or reverts. -/
theorem yields_broadcast_mined {call : Call} {data : Bytes} (encoded : call.calldata = .ok data)
    (possible : c.ledger.apply c.account call ≠ .error .impossible) :
    c.Yields (World.broadcast call).run (.ok c.nextHash) (c.mine (c.effect? call)) := by
  apply yields_broadcast
  rw [broadcast, effect?]
  rw [encoded]
  cases applied : c.ledger.apply c.account call with
  | ok l => rfl
  | error halt =>
      cases halt with
      | reverted => rfl
      | impossible => exact absurd applied possible

/-- The receipt of a call that is mined is found: a success if it took effect, otherwise a revert
that changed nothing. -/
theorem yields_confirm {call : Call} {data : Bytes} {patience : Patience}
    (encoded : call.calldata = .ok data) (patient : c.Patient patience)
    (possible : c.ledger.apply c.account call ≠ .error .impossible) :
    c.Yields (confirm patience call).run
      (.ok ⟨c.nextHash, some c.block, gas, (c.effect? call).isSome⟩)
      { c.mine (c.effect? call) with failingReceipts := 0 } := by
  have sent := yields_broadcast_mined encoded possible
  have found : (c.mine (c.effect? call)).receipts.find? (·.hash == c.nextHash) =
      some ⟨c.nextHash, some c.block, gas, (c.effect? call).isSome⟩ := by
    simp [mine]
  unfold Patient at patient
  refine sent.attempt ?_
  exact yields_persist_receipt patience "submit" (patience.attempts - 1) 0
    (by change c.failingReceipts ≤ _; omega) found

/-- What sending transactions leaves alone: the account, the block and the readings that are still
to fail. Waits that are still to fail can only become fewer. -/
structure Follows (c c' : SimulatedChain) : Prop where
  account : c'.account = c.account
  block : c'.block = c.block
  failingReads : c'.failingReads = c.failingReads
  failingReceipts : c'.failingReceipts ≤ c.failingReceipts

theorem Follows.refl (c : SimulatedChain) : c.Follows c := ⟨rfl, rfl, rfl, Nat.le_refl _⟩

theorem Follows.trans (first : c.Follows c') (second : c'.Follows c'') : c.Follows c'' :=
  ⟨second.account.trans first.account, second.block.trans first.block,
    second.failingReads.trans first.failingReads,
    Nat.le_trans second.failingReceipts first.failingReceipts⟩

theorem Follows.patient {patience : Patience} (follows : c.Follows c')
    (patient : c.Patient patience) : c'.Patient patience :=
  Nat.lt_of_le_of_lt follows.failingReceipts patient

theorem follows_mine (c : SimulatedChain) (after : Option Ledger) :
    c.Follows { c.mine after with failingReceipts := 0 } := ⟨rfl, rfl, rfl, Nat.zero_le _⟩

/-- A call that takes effect, sent with patience, is mined once and has a receipt of success. -/
theorem exists_confirm_ok {call : Call} {data : Bytes} {patience : Patience} {l : Ledger}
    (encoded : call.calldata = .ok data) (patient : c.Patient patience)
    (applied : c.ledger.apply c.account call = .ok l) :
    ∃ receipt c', c.Yields (confirm patience call).run (.ok receipt) c' ∧
      receipt.success = true ∧ c'.ledger = l ∧ c'.transactions = c.transactions + 1 ∧
      c.Follows c' := by
  have confirmed := yields_confirm encoded patient (by rw [applied]; nofun)
  have effect : c.effect? call = some l := by rw [effect?, applied]; rfl
  rw [effect] at confirmed
  exact ⟨_, _, confirmed, rfl, rfl, rfl, c.follows_mine _⟩

/-- A call that reverts, sent with patience, is mined once and leaves nothing but a receipt of
failure. -/
theorem exists_confirm_reverted {call : Call} {data : Bytes} {patience : Patience}
    (encoded : call.calldata = .ok data) (patient : c.Patient patience)
    (applied : c.ledger.apply c.account call = .error .reverted) :
    ∃ receipt c', c.Yields (confirm patience call).run (.ok receipt) c' ∧
      receipt.success = false ∧ c'.ledger = c.ledger ∧ c.Follows c' := by
  have confirmed := yields_confirm encoded patient (by rw [applied]; nofun)
  have effect : c.effect? call = none := by rw [effect?, applied]; rfl
  rw [effect] at confirmed
  exact ⟨_, _, confirmed, rfl, rfl, c.follows_mine _⟩

/-- A call that takes effect although its receipt is given up. -/
theorem exists_confirm_lost {call : Call} {data : Bytes} {patience : Patience} {l : Ledger}
    (encoded : call.calldata = .ok data) (impatient : ¬ c.Patient patience)
    (applied : c.ledger.apply c.account call = .ok l) :
    ∃ hash c', c.Yields (confirm patience call).run
      (.error (.chain (.receiptNotFound hash))) c' ∧ c'.ledger = l := by
  have sent := yields_broadcast_mined encoded (by rw [applied]; nofun)
  have effect : c.effect? call = some l := by rw [effect?, applied]; rfl
  rw [effect] at sent
  have many : patience.attempts - 1 < (c.mine (some l)).failingReceipts := by
    unfold Patient at impatient
    change patience.attempts - 1 < c.failingReceipts
    omega
  obtain ⟨c', lost, ledger⟩ := exists_persist_receipt_lost c.nextHash patience "submit" _ 0 many
  exact ⟨_, c', sent.attempt lost, ledger⟩

end Arbitrage.SimulatedChain
