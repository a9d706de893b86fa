import Arbitrage.Chain.Persistence
import Arbitrage.Proofs.World.Delivery

/-!
# What persistence does

Work that is tried again leaves one dialogue for each attempt, with a report and a pause between
two of them. What holds of every attempt, and is kept when a later part is put behind one that failed
in passing, therefore holds of the whole (`course_persistFrom`).

A call that is sent with patience makes exactly one delivery, whose outcome is the result
(`delivers_confirm`): whatever happens, it is handed over once.
-/

namespace Arbitrage

open World Process World.Dialogue

variable {α : Type} {patience : Patience} {activity : String} {work : Attempt α} {d : Dialogue}

/-- Two attempts and what lies between them: the report that there will be another, and the pause
before it. -/
def retried (first : Dialogue) (event : Event) (delay : Duration) (later : Dialogue) : Dialogue :=
  first ++ ⟨.record event, ()⟩ :: ⟨.sleep delay, ()⟩ :: later

/-- What is not tried for again: a success, or a failure that will not pass. -/
def Settled (r : Except Failure α) : Prop := ∀ e, r = .error e → e.isTransient = false

/-- With attempts left, one whose result is settled is the last. One that failed in passing has a
report and a pause behind it, and then come the others. -/
theorem course_persistFrom_succ_iff {left retry : Nat} {r : Except Failure α} :
    (persistFrom patience activity work (left + 1) retry).run.Course d r ↔
      (work.run.Course d r ∧ Settled r) ∨
      ∃ first e later, work.run.Course first (.error e) ∧ e.isTransient = true ∧
        (persistFrom patience activity work left (retry + 1)).run.Course later r ∧
        d = retried first (.retrying activity (retry + 1) patience.attempts (patience.delay retry) e)
          (patience.delay retry) later := by
  rw [persistFrom]
  refine course_bind_iff.trans ?_
  constructor
  · rintro ⟨first, result, later, rfl, tried, next⟩
    cases result with
    | ok a =>
        obtain ⟨rfl, rfl⟩ := course_done_iff.mp next
        rw [List.append_nil]
        exact .inl ⟨tried, nofun⟩
    | error e =>
        dsimp only at next
        split at next
        · next transient =>
            obtain ⟨_, _, rfl, pause⟩ := course_request_bind_iff.mp next
            obtain ⟨_, later, rfl, rest⟩ := course_request_bind_iff.mp pause
            exact .inr ⟨first, e, later, tried, transient, rest, rfl⟩
        · next permanent =>
            obtain ⟨rfl, rfl⟩ := course_done_iff.mp next
            rw [List.append_nil]
            refine .inl ⟨tried, ?_⟩
            rintro _ ⟨⟩
            simpa using permanent
  · rintro (⟨tried, settled⟩ | ⟨first, e, later, tried, transient, rest, rfl⟩)
    · refine ⟨d, r, [], (List.append_nil d).symm, tried, ?_⟩
      cases r with
      | ok a => exact .done _
      | error e =>
          dsimp only
          rw [if_neg (by simp [settled e rfl])]
          exact .done _
    · refine ⟨first, .error e, _, rfl, tried, ?_⟩
      dsimp only
      rw [if_pos transient]
      exact course_request_bind_iff.mpr
        ⟨(), _, rfl, course_request_bind_iff.mpr ⟨(), _, rfl, rest⟩⟩

/-- What holds of one attempt, and of one that failed in passing with more behind it, holds of all of
them; the number is that of the attempts still left. -/
theorem course_persistFrom {P : Nat → Dialogue → Except Failure α → Prop}
    (one : ∀ left d r, work.run.Course d r → P left d r)
    (again : ∀ left d e event delay later r, work.run.Course d (.error e) → e.isTransient = true →
      P left later r → P (left + 1) (retried d event delay later) r)
    {left retry : Nat} {r : Except Failure α}
    (course : (persistFrom patience activity work left retry).run.Course d r) : P left d r := by
  induction left generalizing retry d with
  | zero => exact one 0 d r course
  | succ left ih =>
      obtain ⟨tried, -⟩ | ⟨first, e, later, tried, transient, rest, rfl⟩ :=
        course_persistFrom_succ_iff.mp course
      · exact one _ _ _ tried
      · exact again left first e _ _ later r tried transient (ih rest)

theorem course_persist {P : Dialogue → Except Failure α → Prop}
    (one : ∀ d r, work.run.Course d r → P d r)
    (again : ∀ d e event delay later r, work.run.Course d (.error e) → e.isTransient = true →
      P later r → P (retried d event delay later) r)
    {r : Except Failure α} (course : (persist patience activity work).run.Course d r) : P d r := by
  refine course_persistFrom (P := fun _ => P) ?_ ?_ course
  · intro _ d r tried
    exact one d r tried
  · intro _ d e event delay later r tried transient rest
    exact again d e event delay later r tried transient rest

theorem delivers_retried {first later : Dialogue} {l₁ l₂ : List Delivery}
    (begun : Delivers first l₁) (rest : Delivers later l₂) (event : Event) (delay : Duration) :
    Delivers (retried first event delay later) (l₁ ++ l₂) :=
  begun.append (delivers_record.append (delivers_sleep.append rest))

/-- The waits for a receipt settle what became of the call sent before them, since they ask for no
other. -/
theorem hear_of_persist_receipt {hash : Word} {r : Except Failure Receipt}
    (course : (persist patience activity (World.receipt hash)).run.Course d r) :
    ∀ newest log, newest.hash = some hash →
      d.foldl Delivery.note (newest :: log) = { newest with outcome := some r } :: log := by
  have wait : ∀ d r, (World.receipt hash).run.Course d r → ∀ newest log,
      newest.hash = some hash →
      d.foldl Delivery.note (newest :: log) = { newest with outcome := some r } :: log := by
    intro d r asked newest log sent
    obtain rfl := course_request_iff.mp asked
    simp [Delivery.note, Delivery.hear, sent]
  refine course_persist wait ?_ course
  intro d e event delay later r tried _ rest newest log sent
  rw [retried, List.foldl_append, wait d _ tried newest log sent]
  exact rest _ log sent

/-- A call sent with patience is handed over exactly once, and the result is what became of it. -/
theorem delivers_confirm {call : Call} {r : Except Failure Receipt}
    (course : (confirm patience call).run.Course d r) :
    ∃ hash, Delivers d [⟨call, hash, some r⟩] := by
  obtain ⟨e, sent, rfl⟩ | ⟨_, hash, waits, rfl, sent, waited⟩ := course_attempt_iff.mp course
  · obtain rfl := course_request_iff.mp sent
    exact ⟨none, fun _ => rfl⟩
  · obtain rfl := course_request_iff.mp sent
    exact ⟨some hash, fun log => hear_of_persist_receipt waited ⟨call, some hash, none⟩ log rfl⟩

end Arbitrage
