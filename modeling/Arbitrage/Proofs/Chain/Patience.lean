import Arbitrage.Proofs.Chain.Persistence
import Arbitrage.World.Script

/-!
# How patience is spent

Work that is done with patience is tried until it succeeds, until it fails in a way that will not
pass, or until the attempts are used up. `Tries` says which attempts that makes. The dialogue of the
whole is that of the attempts, with a report and a pause behind each that failed in passing; nothing
else can happen, and all of this can (`course_persist_iff`). The pauses double from one to the next,
as far as 32 bits can tell and up to the longest duration.

A call that is sent with patience is sent once. What is tried again is the wait for its receipt, and
every wait is for the hash under which the call was sent (`persist_paced`).
-/

namespace Arbitrage

open World Process World.Dialogue

namespace Patience

theorem factor_eq (retry : Nat) : factor retry = min (2 ^ retry) (2 ^ 32 - 1) := by
  rw [factor]
  split
  · next small =>
      have power : 2 ^ retry ≤ 2 ^ 31 := Nat.pow_le_pow_right (by decide) (by omega)
      omega
  · next large =>
      have power : 2 ^ 32 ≤ 2 ^ retry := Nat.pow_le_pow_right (by decide) (by omega)
      omega

theorem nanos_delay (p : Patience) (retry : Nat) : (p.delay retry).nanos =
    min (p.pause.nanos * min (2 ^ retry) (2 ^ 32 - 1)) Duration.longest.nanos := by
  rw [delay, factor_eq]
  rfl

theorem nanos_delay_mono (p : Patience) {retry later : Nat} (before : retry ≤ later) :
    (p.delay retry).nanos ≤ (p.delay later).nanos := by
  have power : 2 ^ retry ≤ 2 ^ later := Nat.pow_le_pow_right (by decide) before
  have factors : min (2 ^ retry) (2 ^ 32 - 1) ≤ min (2 ^ later) (2 ^ 32 - 1) := by omega
  have products := Nat.mul_le_mul_left p.pause.nanos factors
  rw [nanos_delay, nanos_delay]
  omega

end Patience

/-- Which attempts at some work are made, if so many are allowed: some that failed in passing, each
with its dialogue and its failure, and behind them the last one, whose result is that of all. -/
structure Tries {α : Type} (work : Attempt α) (allowed : Nat) (failed : List (Dialogue × Failure))
    (last : Dialogue) (r : Except Failure α) : Prop where
  passing : ∀ x ∈ failed, work.run.Course x.1 (.error x.2) ∧ x.2.isTransient = true
  final : work.run.Course last r
  limited : failed.length + 1 ≤ allowed
  /-- They end with what is not tried for again, or as no more are allowed. -/
  ended : Settled r ∨ failed.length + 1 = allowed

/-- A failed attempt, the report of it and the pause behind it, with the number of that pause, on
which its length depends. -/
def pausing (patience : Patience) (activity : String) (x : (Dialogue × Failure) × Nat) : Dialogue :=
  x.1.1 ++ [⟨.record (.retrying activity (x.2 + 1) patience.attempts (patience.delay x.2) x.1.2), ()⟩,
    ⟨.sleep (patience.delay x.2), ()⟩]

section Attempts

variable {α : Type} {patience : Patience} {activity : String} {work : Attempt α} {d : Dialogue}
  {r : Except Failure α}

theorem course_persistFrom_iff {left retry : Nat} :
    (persistFrom patience activity work left retry).run.Course d r ↔
      ∃ failed last, Tries work (left + 1) failed last r ∧
        d = (failed.zipIdx retry).flatMap (pausing patience activity) ++ last := by
  induction left generalizing retry d with
  | zero =>
      constructor
      · intro tried
        exact ⟨[], d, ⟨List.forall_mem_nil _, tried, Nat.le_refl 1, .inr rfl⟩, rfl⟩
      · rintro ⟨failed, last, tries, rfl⟩
        obtain rfl := List.eq_nil_of_length_eq_zero (Nat.le_zero.mp (Nat.le_of_succ_le_succ tries.limited))
        exact tries.final
  | succ left ih =>
      rw [course_persistFrom_succ_iff]
      constructor
      · rintro (⟨tried, settled⟩ | ⟨first, e, later, tried, transient, rest, rfl⟩)
        · exact ⟨[], d, ⟨List.forall_mem_nil _, tried, Nat.le_add_left 1 _, .inl settled⟩, rfl⟩
        · obtain ⟨failed, last, tries, rfl⟩ := ih.mp rest
          refine ⟨(first, e) :: failed, last, ⟨?_, tries.final, Nat.succ_le_succ tries.limited, ?_⟩, ?_⟩
          · exact List.forall_mem_cons.mpr ⟨⟨tried, transient⟩, tries.passing⟩
          · exact tries.ended.imp_right (congrArg (· + 1))
          · simp [pausing, retried]
      · rintro ⟨failed, last, tries, rfl⟩
        cases failed with
        | nil => exact .inl ⟨tries.final, tries.ended.resolve_right (by simp)⟩
        | cons x failed =>
            obtain ⟨⟨tried, transient⟩, others⟩ := List.forall_mem_cons.mp tries.passing
            have rest : Tries work (left + 1) failed last r :=
              ⟨others, tries.final, Nat.le_of_succ_le_succ tries.limited,
                tries.ended.imp_right Nat.succ.inj⟩
            refine .inr ⟨x.1, x.2, _, tried, transient, ih.mpr ⟨failed, last, rest, rfl⟩, ?_⟩
            simp [pausing, retried]

/-- What comes of work that is done with patience: exactly the tries that the policy allows, with
nothing between them but reports and pauses. -/
theorem course_persist_iff :
    (persist patience activity work).run.Course d r ↔
      ∃ failed last, Tries work (max patience.attempts 1) failed last r ∧
        d = failed.zipIdx.flatMap (pausing patience activity) ++ last := by
  have allowed : patience.attempts - 1 + 1 = max patience.attempts 1 := by omega
  rw [persist, course_persistFrom_iff, allowed]

end Attempts

namespace World.Dialogue

/-- The hashes for whose receipts a dialogue waits, in order. -/
def waits (d : Dialogue) : List Word :=
  d.filterMap fun x => match x.query with
    | .receipt hash => some hash
    | _ => none

/-- The pauses of a dialogue, in order. -/
def pauses (d : Dialogue) : List Duration :=
  d.filterMap fun x => match x.query with
    | .sleep delay => some delay
    | _ => none

end World.Dialogue

section Confirm

variable {patience : Patience} {activity : String} {hash : Word} {d : Dialogue}

/-- Waits for one receipt, the last of them with the answer `r`, and a report and a pause behind each
of the others. -/
theorem waits_paced {failed : List (Dialogue × Failure)}
    (waited : ∀ x ∈ failed, x.1 = [⟨.receipt hash, .error x.2⟩]) (r : Except Failure Receipt)
    (retry : Nat) :
    let d := (failed.zipIdx retry).flatMap (pausing patience activity) ++ [⟨.receipt hash, r⟩]
    broadcasts d = [] ∧ waits d = List.replicate (failed.length + 1) hash ∧
      pauses d = (List.range' retry failed.length).map patience.delay := by
  induction failed generalizing retry with
  | nil => exact ⟨rfl, rfl, rfl⟩
  | cons x failed ih =>
      obtain ⟨first, others⟩ := List.forall_mem_cons.mp waited
      obtain ⟨sent, waits, pauses⟩ := ih others (retry + 1)
      rw [List.zipIdx_cons, List.flatMap_cons, pausing, first]
      exact ⟨sent, congrArg (hash :: ·) waits, congrArg (patience.delay retry :: ·) pauses⟩

/-- How a call is sent with patience, and what comes of it: one question that sends it, and then
only waits for its receipt. -/
structure Confirms (patience : Patience) (call : Call) (answer : Except Failure Word)
    (waiting : Dialogue) (r : Except Failure Receipt) : Prop where
  /-- Nothing of what follows sends it again. -/
  sends_nothing : waiting.broadcasts = []
  /-- If sending it fails, there is nothing to wait for. -/
  unsent : ∀ e, answer = .error e → waiting = [] ∧ r = .error e
  /-- Else there is at least one wait for its receipt, and no more than there are attempts. They are
  for no other, with growing pauses between two of them, and the last one tells the result. -/
  sent : ∀ hash, answer = .ok hash → ∃ count < max patience.attempts 1,
    waiting.waits = List.replicate (count + 1) hash ∧
    waiting.pauses = (List.range count).map patience.delay ∧
    waiting.getLast? = some ⟨.receipt hash, r⟩

theorem course_confirm {call : Call} {r : Except Failure Receipt}
    (course : (confirm patience call).run.Course d r) :
    ∃ answer waiting, d = ⟨.broadcast call, answer⟩ :: waiting ∧
      Confirms patience call answer waiting r := by
  obtain ⟨e, failed, rfl⟩ | ⟨_, hash, waiting, rfl, sent, waited⟩ := course_attempt_iff.mp course
  · obtain rfl := course_request_iff.mp failed
    refine ⟨.error e, [], rfl, rfl, ?_, nofun⟩
    rintro _ ⟨⟩
    exact ⟨rfl, rfl⟩
  · obtain rfl := course_request_iff.mp sent
    obtain ⟨failed, last, tries, rfl⟩ := course_persist_iff.mp waited
    obtain rfl := course_request_iff.mp tries.final
    have single : ∀ x ∈ failed, x.1 = [⟨.receipt hash, .error x.2⟩] := by
      intro x listed
      exact course_request_iff.mp (tries.passing x listed).1
    obtain ⟨quiet, waits, pauses⟩ := waits_paced single r 0
    refine ⟨.ok hash, _, rfl, quiet, nofun, ?_⟩
    rintro _ ⟨⟩
    exact ⟨failed.length, tries.limited, waits, by rw [List.range_eq_range']; exact pauses, by simp⟩

end Confirm

/-- Whatever the policy, an operation is tried exactly until its first outcome that is settled or
until its attempts are used up, whichever comes first, and the outcome of the last attempt is the
result. Before every further attempt there is a pause, which is the shortest one times a power of two
within 32 bits, or the longest duration; so no number leaves its range and no pause is shorter than
the one before. A call is therefore sent once, whatever happens, and nothing but the wait for its
receipt is tried again. -/
theorem persist_paced (attempts : UInt32) (pause : Duration) :
    (∀ {α : Type} (activity : String) (work : Attempt α) (d : Dialogue) (r : Except Failure α),
      (persist ⟨attempts.toNat, pause⟩ activity work).run.Course d r ↔
        ∃ failed last, Tries work (max attempts.toNat 1) failed last r ∧
          d = failed.zipIdx.flatMap (pausing ⟨attempts.toNat, pause⟩ activity) ++ last) ∧
    (∀ {α : Type} (work : Attempt α) (failed : List (Dialogue × Failure)) (last : Dialogue)
      (r : Except Failure α), Tries work (max attempts.toNat 1) failed last r →
        failed.length + 1 < 2 ^ 32) ∧
    (∀ retry, (Patience.delay ⟨attempts.toNat, pause⟩ retry).nanos =
        min (pause.nanos * min (2 ^ retry) (2 ^ 32 - 1)) Duration.longest.nanos ∧
      (Patience.delay ⟨attempts.toNat, pause⟩ retry).nanos ≤
        (Patience.delay ⟨attempts.toNat, pause⟩ (retry + 1)).nanos) ∧
    ∀ (call : Call) (d : Dialogue) (r : Except Failure Receipt),
      (confirm ⟨attempts.toNat, pause⟩ call).run.Course d r →
        ∃ answer waiting, d = ⟨.broadcast call, answer⟩ :: waiting ∧
          Confirms ⟨attempts.toNat, pause⟩ call answer waiting r := by
  refine ⟨fun _ _ _ _ => course_persist_iff, ?_, ?_, fun _ _ _ => course_confirm⟩
  · intro _ work failed last r tries
    have counted := attempts.toNat_lt
    have allowed := tries.limited
    omega
  · intro retry
    exact ⟨Patience.nanos_delay _ retry, Patience.nanos_delay_mono _ (Nat.le_succ retry)⟩

/-- A world in which a receipt is there only when it is asked for the third time. -/
def lateWorld : Script where
  tokens := ⟨.repeated 0x11, .repeated 0x22, .repeated 0x33⟩
  vaults := { standing := .error (.chain (.unreachable "")) }
  balance := .zero
  receipts := ⟨[.error (.chain (.receiptNotFound "")), .error (.chain (.receiptNotFound ""))],
    .ok ⟨0, none, 21000, true⟩⟩

def lateCall : Call := .approve (.repeated 0x11) (.repeated 0xa1) .max

/-- With all the attempts that 32 bits can count there are three waits, and two pauses of which the
second is twice as long. -/
theorem persist_paced_late :
    ∃ waiting : Dialogue, (confirm ⟨(4294967295 : UInt32).toNat, .ofSeconds 3600⟩ lateCall).run.Course
        (⟨.broadcast lateCall, .ok (Script.hashOf 1)⟩ :: waiting)
        (.ok ⟨Script.hashOf 1, none, 21000, true⟩) ∧
      broadcasts waiting = [] ∧ waits waiting = List.replicate 3 (Script.hashOf 1) ∧
      pauses waiting = [.ofSeconds 3600, .ofSeconds 7200] := by
  let p : Work (Except Failure Receipt) :=
    (confirm ⟨(4294967295 : UInt32).toNat, .ofSeconds 3600⟩ lateCall).run
  have course : p.Course _ (.ok ⟨Script.hashOf 1, none, 21000, true⟩) :=
    course_of_run Script.answer (w := lateWorld) rfl
  obtain ⟨-, -, -, confirmed⟩ := persist_paced 4294967295 (.ofSeconds 3600)
  obtain ⟨answer, waiting, told, confirms⟩ := confirmed _ _ _ course
  have first : (p.transcript Script.answer lateWorld).head? =
      some ⟨.broadcast lateCall, .ok (Script.hashOf 1)⟩ := rfl
  have waited : waits (p.transcript Script.answer lateWorld) = List.replicate 3 (Script.hashOf 1) :=
    rfl
  rw [told] at first waited course
  cases first
  obtain ⟨count, -, all, pauses, -⟩ := confirms.sent _ rfl
  obtain rfl : count = 2 := by
    simpa using congrArg List.length (all.symm.trans waited)
  exact ⟨waiting, course, confirms.sends_nothing, waited, pauses⟩

end Arbitrage
