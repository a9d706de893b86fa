import Arbitrage.Proofs.Simulation.Table
import Arbitrage.Proofs.Word
import Arbitrage.Simulation.Ledger

/-!
# Holdings

A balance changes by what is credited and debited, and nothing else of a ledger does. Amounts move
only as far as the balance, and for a pull the allowance, reach; both are decided by the amounts
alone (`debit_eq_ok_iff`, `pull_eq_ok_iff`), and a refusal is always a revert.
-/

namespace Arbitrage.Ledger

variable {l l' : Ledger} {token owner spender : Address} {amount : Wad}

theorem balance_setBalance (l : Ledger) (token owner : Address) (amount : Wad) (t o : Address) :
    (l.setBalance token owner amount).balance t o =
      if t = token ∧ o = owner then amount else l.balance t o := by
  simp only [balance, setBalance, Table.find?_insert, Prod.mk.injEq]
  split <;> rfl

theorem raw_balance_lt {bound : Nat} (pos : 0 < bound)
    (all : ∀ e ∈ l.balances.entries, e.2.raw < bound) (t o : Address) :
    (l.balance t o).raw < bound := by
  rw [balance]
  cases found : l.balances.find? (t, o) with
  | none => exact pos
  | some held => exact all _ (Table.mem_of_find? found)

theorem raw_balance_credit (l : Ledger) (token owner : Address) (amount : Wad) (t o : Address) :
    ((l.credit token owner amount).balance t o).raw =
      (l.balance t o).raw + if t = token ∧ o = owner then amount.raw else 0 := by
  rw [credit, balance_setBalance]
  split
  · next same => rw [same.1, same.2, Amount.raw_add]
  · rfl

theorem allowance_approve (l : Ledger) (token owner spender : Address) (amount : Word)
    (t o s : Address) :
    (l.approve token owner spender amount).allowance t o s =
      if t = token ∧ o = owner ∧ s = spender then amount else l.allowance t o s := by
  simp only [allowance, approve, Table.find?_insert, Prod.mk.injEq]
  split <;> rfl

/-- A ledger with an amount taken from a balance that holds it. -/
def withdraw (l : Ledger) (token owner : Address) (amount : Wad) : Ledger :=
  l.setBalance token owner ⟨(l.balance token owner).raw - amount.raw⟩

theorem raw_balance_withdraw (enough : amount ≤ l.balance token owner) (t o : Address) :
    ((l.withdraw token owner amount).balance t o).raw +
      (if t = token ∧ o = owner then amount.raw else 0) = (l.balance t o).raw := by
  rw [withdraw, balance_setBalance]
  split
  · next same =>
      rw [same.1, same.2]
      exact Nat.sub_add_cancel enough
  · rfl

theorem debit_eq_ok_iff :
    l.debit token owner amount = .ok l' ↔
      amount ≤ l.balance token owner ∧ l' = l.withdraw token owner amount := by
  rw [debit, Amount.sub?]
  by_cases enough : amount.raw ≤ (l.balance token owner).raw
  · simp [enough, withdraw, Amount.le_def, eq_comm]
  · simp [enough, Amount.le_def]

theorem debit_of_lt (short : l.balance token owner < amount) :
    l.debit token owner amount = .error .reverted := by
  rw [debit, Amount.sub?]
  rw [if_neg (Nat.not_le_of_lt short)]

/-- What can be pulled fits a word, is allowed, and is held. -/
def CanPull (l : Ledger) (token owner spender : Address) (amount : Wad) : Prop :=
  amount.raw < 2 ^ 256 ∧ amount.raw ≤ (l.allowance token owner spender).toNat ∧
    amount ≤ l.balance token owner

theorem pull_of_canPull (can : l.CanPull token owner spender amount) :
    l.pull token owner spender amount = .ok (l.withdraw token owner amount) := by
  obtain ⟨fits, allowed, held⟩ := can
  have word : amount.toWord? = .ok (BitVec.ofNat 256 amount.raw) :=
    Word.ofNat?_eq_ok_iff.mpr ⟨fits, rfl⟩
  have enough : ¬ l.allowance token owner spender < BitVec.ofNat 256 amount.raw := by
    simp only [BitVec.lt_def, BitVec.toNat_ofNat, Nat.mod_eq_of_lt fits]
    exact Nat.not_lt.mpr allowed
  simp only [pull, word, if_neg enough]
  exact debit_eq_ok_iff.mpr ⟨held, rfl⟩

theorem pull_of_not_canPull (cannot : ¬ l.CanPull token owner spender amount) :
    l.pull token owner spender amount = .error .reverted := by
  rw [pull]
  by_cases fits : amount.raw < 2 ^ 256
  · have word : amount.toWord? = .ok (BitVec.ofNat 256 amount.raw) :=
      Word.ofNat?_eq_ok_iff.mpr ⟨fits, rfl⟩
    simp only [word, BitVec.lt_def, BitVec.toNat_ofNat, Nat.mod_eq_of_lt fits]
    split
    · rfl
    · next allowed =>
        exact debit_of_lt (Nat.not_le.mp fun held => cannot ⟨fits, Nat.not_lt.mp allowed, held⟩)
  · have none : amount.toWord? = .error .tooLarge :=
      Word.ofNat?_eq_error_of_le (Nat.not_lt.mp fits)
    simp only [none]

/-- A pull takes what it can: it goes through exactly if both the allowance and the balance
suffice. -/
theorem pull_eq_ok_iff :
    l.pull token owner spender amount = .ok l' ↔
      l.CanPull token owner spender amount ∧ l' = l.withdraw token owner amount := by
  by_cases can : l.CanPull token owner spender amount
  · simp [pull_of_canPull can, can, eq_comm]
  · simp [pull_of_not_canPull can, can]

theorem pull_with_vault (l : Ledger) (vault : Vault) (token owner spender : Address) (amount : Wad) :
    ({ l with vault } : Ledger).pull token owner spender amount =
      (l.pull token owner spender amount).map fun l => { l with vault } := by
  have same : ({ l with vault } : Ledger).CanPull token owner spender amount ↔
    l.CanPull token owner spender amount := Iff.rfl
  by_cases can : l.CanPull token owner spender amount
  · rw [pull_of_canPull can, pull_of_canPull (same.mpr can)]
    rfl
  · rw [pull_of_not_canPull can, pull_of_not_canPull (mt same.mp can)]
    rfl

end Arbitrage.Ledger
