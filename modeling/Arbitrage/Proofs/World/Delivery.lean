import Arbitrage.Proofs.Process
import Arbitrage.World.Trace

/-!
# What became of the calls that were sent

The deliveries of a dialogue with the world are read off its exchanges alone: each call handed over
for sending begins one, and until the next call is handed over the answers to waits for its receipt
say what came of it. So a delivery that has succeeded had its receipt before anything else was sent
(`deliveries_append_broadcast`).

`Delivers d l` says that a piece of dialogue makes the deliveries `l` whatever went before. It
composes along the dialogue, so the deliveries of a procedure are put together from those of its
parts.
-/

namespace Arbitrage.World

/-- What was asked of the world, in order, and what it answered. -/
abbrev Dialogue := List (Process.Exchange World)

/-- A call that was handed over for sending, and what is known to have come of it. -/
structure Delivery where
  call : Call
  /-- The hash under which it was sent, unless sending failed. -/
  hash : Option Word
  /-- Its receipt, or why there is none: the failure of sending it or of the last wait. -/
  outcome : Option (Except Failure Receipt)

namespace Delivery

/-- A call as it stands once the world has answered the request to send it. -/
def begin (call : Call) : Except Failure Word → Delivery
  | .ok hash => ⟨call, some hash, none⟩
  | .error e => ⟨call, none, some (.error e)⟩

/-- Take in the answer to a wait for a receipt, if the wait was for this delivery. -/
def hear (x : Delivery) (hash : Word) (answer : Except Failure Receipt) : Delivery :=
  if x.hash = some hash then { x with outcome := some answer } else x

def note (log : List Delivery) (x : Process.Exchange World) : List Delivery :=
  match x with
  | ⟨.broadcast call, answer⟩ => begin call answer :: log
  | ⟨.receipt hash, answer⟩ =>
    match log with
    | newest :: log => newest.hear hash answer :: log
    | [] => []
  | _ => log

/-- The receipt of a call is there, and tells that it took effect. -/
def Succeeded (x : Delivery) : Prop :=
  ∃ receipt, x.outcome = some (.ok receipt) ∧ receipt.success = true

@[simp] theorem call_begin (call : Call) (answer : Except Failure Word) :
    (begin call answer).call = call := by cases answer <;> rfl

@[simp] theorem call_hear (x : Delivery) (hash : Word) (answer : Except Failure Receipt) :
    (x.hear hash answer).call = x.call := by
  rw [hear]
  split <;> rfl

end Delivery

namespace Dialogue

open Delivery

variable {d d₁ d₂ : Dialogue}

/-- The deliveries of a dialogue, in the order in which their calls were sent. -/
def deliveries (d : Dialogue) : List Delivery := (d.foldl note []).reverse

def asked (x : Process.Exchange World) : Query := x.query

/-- The calls of a dialogue that were handed over for sending, in order. -/
def broadcasts (d : Dialogue) : List Call := Trace.broadcasts (d.map asked)

/-- The numbers that the chain gave for its newest block, in order. -/
def heads (d : Dialogue) : List Nat :=
  d.filterMap fun
    | ⟨.blockNumber, answer⟩ => answer.toOption
    | _ => none

theorem heads_append (d₁ d₂ : Dialogue) : heads (d₁ ++ d₂) = d₁.heads ++ d₂.heads :=
  List.filterMap_append

section Log

variable {log : List Delivery}

theorem note_append (older : List Delivery) (nonempty : log ≠ []) (x : Process.Exchange World) :
    note (log ++ older) x = note log x ++ older ∧ note log x ≠ [] := by
  obtain ⟨newest, rest, rfl⟩ := List.exists_cons_of_ne_nil nonempty
  obtain ⟨query, answer⟩ := x
  cases query <;> simp [note]

theorem foldl_note_append (older : List Delivery) (nonempty : log ≠ []) (d : Dialogue) :
    d.foldl note (log ++ older) = d.foldl note log ++ older := by
  induction d generalizing log with
  | nil => rfl
  | cons x d ih =>
      obtain ⟨step, still⟩ := note_append older nonempty x
      rw [List.foldl_cons, List.foldl_cons, step]
      exact ih still

theorem broadcasts_cons (x : Process.Exchange World) (d : Dialogue) :
    broadcasts (x :: d) = broadcasts [x] ++ broadcasts d := by
  rw [broadcasts, List.map_cons, Trace.broadcasts, List.filterMap_cons]
  rcases x with ⟨query, -⟩
  cases query <;> rfl

theorem map_call_note (log : List Delivery) (x : Process.Exchange World) :
    (note log x).map Delivery.call = (broadcasts [x]).reverse ++ log.map Delivery.call := by
  obtain ⟨query, answer⟩ := x
  cases query with
  | broadcast call => exact congrArg (· :: log.map Delivery.call) (call_begin call answer)
  | receipt hash =>
      cases log with
      | nil => rfl
      | cons newest log => exact congrArg (· :: log.map Delivery.call) (call_hear newest hash answer)
  | _ => rfl

theorem map_call_foldl (d : Dialogue) (log : List Delivery) :
    (d.foldl note log).map Delivery.call = (broadcasts d).reverse ++ log.map Delivery.call := by
  induction d generalizing log with
  | nil => rfl
  | cons x d ih =>
      rw [List.foldl_cons, ih, map_call_note, broadcasts_cons x d]
      simp

end Log

/-- Every call sent is a delivery, and there are no others. -/
theorem map_call_deliveries (d : Dialogue) : d.deliveries.map Delivery.call = d.broadcasts := by
  rw [deliveries, List.map_reverse, map_call_foldl]
  simp

/-- Once another call is sent, what became of those before it is settled. -/
theorem deliveries_append_broadcast (before after : Dialogue) (call : Call)
    (answer : Except Failure Word) :
    ∃ later, later ≠ [] ∧
      deliveries (before ++ ⟨.broadcast call, answer⟩ :: after) = before.deliveries ++ later := by
  have frozen := foldl_note_append (before.foldl note [])
    (List.cons_ne_nil (begin call answer) []) after
  refine ⟨(after.foldl note [begin call answer]).reverse, ?_, ?_⟩
  · intro none
    have sent := map_call_foldl after [begin call answer]
    rw [List.reverse_eq_nil_iff.mp none] at sent
    simp at sent
  · have all : deliveries (before ++ ⟨.broadcast call, answer⟩ :: after) =
        (after.foldl note ([begin call answer] ++ before.foldl note [])).reverse := by
      rw [deliveries, List.foldl_append, List.foldl_cons]
      rfl
    rw [all, frozen, List.reverse_append]
    rfl

/-- A piece of dialogue makes some deliveries, whatever was delivered before it. -/
def Delivers (d : Dialogue) (l : List Delivery) : Prop :=
  ∀ log, d.foldl note log = l.reverse ++ log

theorem Delivers.deliveries_eq {l : List Delivery} (made : Delivers d l) : d.deliveries = l := by
  rw [deliveries, made []]
  simp

theorem Delivers.nil : Delivers [] [] := fun _ => rfl

theorem Delivers.append {l₁ l₂ : List Delivery} (first : Delivers d₁ l₁)
    (second : Delivers d₂ l₂) : Delivers (d₁ ++ d₂) (l₁ ++ l₂) := by
  intro log
  rw [List.foldl_append, first, second, List.reverse_append, List.append_assoc]

/-- What is neither sending nor waiting for a receipt delivers nothing. -/
theorem delivers_record {event : Event} {answer : Unit} :
    Delivers [⟨.record event, answer⟩] [] := fun _ => rfl

theorem delivers_sleep {delay : Duration} {answer : Unit} :
    Delivers [⟨.sleep delay, answer⟩] [] := fun _ => rfl

theorem delivers_allowance {token owner spender : Address} {answer : Except Failure Word} :
    Delivers [⟨.allowance token owner spender, answer⟩] [] := fun _ => rfl

theorem course_record {α : Type} {event : Event} {x : Unit → Attempt α} {r : Except Failure α}
    (course : ((liftM (World.record event) : Attempt Unit) >>= x).run.Course d r) :
    ∃ later, (x ()).run.Course later r ∧ ∀ l, Delivers later l → Delivers d l := by
  obtain ⟨_, later, rfl, rest⟩ := Process.course_ask_iff.mp course
  exact ⟨later, rest, fun l made => delivers_record.append made⟩

end Dialogue

end Arbitrage.World
