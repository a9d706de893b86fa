import Arbitrage.Proofs.Simulation.Backing

/-!
# Sweeping whole balances

A batch starts by moving all that its caller holds of some tokens to the executor and ends by moving
all that the executor holds of them back. Both are the same sweep between two accounts: the giver is
left with nothing of these tokens, the taker has what both had, and nothing else changes
(`balance_sweep_giver`, `balance_sweep_taker`, `balance_sweep_of_other`). The way out needs
allowances (`gather_eq_sweep`), the way back never fails (`release_eq_sweep`).
-/

namespace Arbitrage.Ledger

variable {l : Ledger} {giver taker : Address}

/-- Move all that one account holds of a token to another. -/
def move (l : Ledger) (token giver taker : Address) : Ledger :=
  (l.withdraw token giver (l.balance token giver)).credit token taker (l.balance token giver)

/-- Move all that one account holds of some tokens to another. -/
def sweep (l : Ledger) (giver taker : Address) : List Address → Ledger
  | [] => l
  | token :: tokens => (l.move token giver taker).sweep giver taker tokens

theorem raw_balance_move (l : Ledger) (token giver taker t o : Address) :
    ((l.move token giver taker).balance t o).raw +
        (if t = token ∧ o = giver then (l.balance token giver).raw else 0) =
      (l.balance t o).raw + if t = token ∧ o = taker then (l.balance token giver).raw else 0 := by
  have taken := raw_balance_withdraw (Nat.le_refl (l.balance token giver).raw) t o
  rw [move, raw_balance_credit]
  omega

theorem sweep_eq (l : Ledger) (giver taker : Address) (tokens : List Address) :
    l.sweep giver taker tokens = { l with balances := (l.sweep giver taker tokens).balances } := by
  induction tokens generalizing l with
  | nil => rfl
  | cons token tokens ih =>
      rw [sweep, ih]
      rfl

theorem circulating_move (l : Ledger) (token giver taker : Address) :
    (l.move token giver taker).circulating = l.circulating := by
  have taken := circulating_withdraw (Nat.le_refl (l.balance token giver).raw)
  have tokens : (l.withdraw token giver (l.balance token giver)).tokens = l.tokens := rfl
  rw [move, circulating_credit, tokens]
  exact taken

theorem circulating_sweep (l : Ledger) (giver taker : Address) (tokens : List Address) :
    (l.sweep giver taker tokens).circulating = l.circulating := by
  induction tokens generalizing l with
  | nil => rfl
  | cons token tokens ih => rw [sweep, ih, circulating_move]

theorem Sound.sweep (sound : l.Sound) (giver taker : Address) (tokens : List Address) :
    (l.sweep giver taker tokens).Sound := by
  have circulating := l.circulating_sweep giver taker tokens
  have backed := sound.backed
  rw [sweep_eq] at circulating ⊢
  refine ⟨sound.distinct, sound.filed, ?_⟩
  simp only [Backed, accounted] at backed ⊢
  rw [circulating]
  exact backed

section Balances

variable {tokens : List Address} {t : Address}

theorem balance_sweep_of_other {o : Address} (other : t ∉ tokens ∨ o ≠ giver ∧ o ≠ taker) :
    (l.sweep giver taker tokens).balance t o = l.balance t o := by
  induction tokens generalizing l with
  | nil => rfl
  | cons token tokens ih =>
      have later : t ∉ tokens ∨ o ≠ giver ∧ o ≠ taker := by
        rcases other with absent | apart
        · exact .inl fun h => absent (List.mem_cons_of_mem _ h)
        · exact .inr apart
      have first := raw_balance_move l token giver taker t o
      have untouched : ¬ (t = token ∧ o = giver) ∧ ¬ (t = token ∧ o = taker) := by
        rcases other with absent | apart
        · have : t ≠ token := fun h => absent (h ▸ List.mem_cons_self)
          exact ⟨fun h => this h.1, fun h => this h.1⟩
        · exact ⟨fun h => apart.1 h.2, fun h => apart.2 h.2⟩
      rw [if_neg untouched.1, if_neg untouched.2] at first
      rw [sweep, ih later]
      exact Amount.ext first

theorem balance_sweep_both (l : Ledger) (tokens : List Address) (t : Address)
    (apart : giver ≠ taker) :
    ((l.sweep giver taker tokens).balance t giver).raw +
        ((l.sweep giver taker tokens).balance t taker).raw =
      (l.balance t giver).raw + (l.balance t taker).raw := by
  induction tokens generalizing l with
  | nil => rfl
  | cons token tokens ih =>
      have gives := raw_balance_move l token giver taker t giver
      have takes := raw_balance_move l token giver taker t taker
      simp only [apart, apart.symm, and_false, and_true, if_false, Nat.add_zero] at gives takes
      rw [sweep, ih]
      omega

/-- What the giver has nothing of, or is swept, it has nothing of afterwards. -/
theorem balance_sweep_giver (apart : giver ≠ taker)
    (gone : t ∈ tokens ∨ (l.balance t giver).raw = 0) :
    ((l.sweep giver taker tokens).balance t giver).raw = 0 := by
  induction tokens generalizing l with
  | nil => exact gone.resolve_left List.not_mem_nil
  | cons token tokens ih =>
      have gives := raw_balance_move l token giver taker t giver
      simp only [apart, and_false, and_true, if_false, Nat.add_zero] at gives
      rw [sweep]
      apply ih
      by_cases same : t = token
      · subst same
        rw [if_pos rfl] at gives
        exact .inr (by omega)
      · rw [if_neg same] at gives
        rcases gone with listed | zero
        · exact .inl ((List.mem_cons.mp listed).resolve_left same)
        · exact .inr (by omega)

theorem balance_sweep_taker (apart : giver ≠ taker) (swept : t ∈ tokens) :
    ((l.sweep giver taker tokens).balance t taker).raw =
      (l.balance t giver).raw + (l.balance t taker).raw := by
  have both := balance_sweep_both l tokens t apart
  have gone := balance_sweep_giver (l := l) apart (.inl swept)
  omega

end Balances

/-- All that an account holds of some tokens can be pulled if it is allowed and fits. -/
theorem gather_eq_sweep {tokens : List Address} (apart : giver ≠ taker)
    (can : ∀ t ∈ tokens, l.CanPull t giver taker (l.balance t giver)) :
    l.gather giver taker tokens = .ok (l.sweep giver taker tokens) := by
  induction tokens generalizing l with
  | nil => rfl
  | cons token tokens ih =>
      have first := pull_of_canPull (can token List.mem_cons_self)
      have step : l.gather giver taker (token :: tokens) =
          (l.move token giver taker).gather giver taker tokens := by
        simp only [gather, first]
        rfl
      rw [step, sweep]
      apply ih
      intro t listed
      have gives := raw_balance_move l token giver taker t giver
      simp only [apart, and_false, and_true, if_false, Nat.add_zero] at gives
      obtain ⟨fits, allowed, -⟩ := can t (List.mem_cons_of_mem _ listed)
      exact ⟨by omega, Nat.le_trans (by omega) allowed, Nat.le_refl _⟩

theorem release_eq_sweep (l : Ledger) (taker giver : Address) (tokens : List Address) :
    l.release taker giver tokens = .ok (l.sweep giver taker tokens) := by
  induction tokens generalizing l with
  | nil => rfl
  | cons token tokens ih =>
      have first : l.debit token giver (l.balance token giver) =
        .ok (l.withdraw token giver (l.balance token giver)) :=
          debit_eq_ok_iff.mpr ⟨Nat.le_refl _, rfl⟩
      have step : l.release taker giver (token :: tokens) =
          (l.move token giver taker).release taker giver tokens := by
        simp only [release, first]
        rfl
      rw [step, sweep, ih]

end Arbitrage.Ledger
