import Arbitrage.Node.Script
import Arbitrage.Proofs.Process

/-!
# Time in a dialogue with a node

All that is known of time is what the clock shows, and that a pause lasts as long as it is asked to.
Not even that is needed in full: a sleeper may wake early, as long as a pause of a second or more lasts
at least a second (`atLeast`). `Since time d` says so of a dialogue that begins at some time or later:
the clock never shows less than it may, which is what it showed before and the pauses made since. How
long a request takes is left open, so nothing bounds the readings from above.

This is so in all surroundings that keep such a clock (`since_transcript`).
-/

namespace Arbitrage

namespace Node

open Process

/-- What was asked of a node, in order, and what it answered. -/
abbrev Dialogue := List (Exchange Node)

/-- How many nanoseconds a pause lasts at least: a short one its full time, a long one no less than
a second. -/
def atLeast (delay : Duration) : Nat := min delay.nanos Duration.second

/-- A dialogue that does not begin before some time, by a clock that never runs backwards. -/
def Since : (time : Nat) → Dialogue → Prop
  | _, [] => True
  | time, ⟨.now, (reading : Duration)⟩ :: d => time ≤ reading.nanos ∧ Since reading.nanos d
  | time, ⟨.sleep delay, _⟩ :: d => Since (time + atLeast delay) d
  | time, ⟨.request _, _⟩ :: d | time, ⟨.ended _, _⟩ :: d | time, ⟨.record _, _⟩ :: d => Since time d

def Timely (d : Dialogue) : Prop := Since 0 d

section Pieces

variable {time earlier : Nat} {d d₁ d₂ : Dialogue}

theorem Since.mono (since : Since time d) (before : earlier ≤ time) : Since earlier d := by
  induction d generalizing time earlier with
  | nil => trivial
  | cons x d ih =>
      obtain ⟨query, answer⟩ := x
      cases query with
      | now => exact ⟨Nat.le_trans before since.1, since.2⟩
      | sleep delay => exact ih since (Nat.add_le_add_right before _)
      | request | ended | record => exact ih since before

theorem Since.timely (since : Since time d) : Timely d := since.mono (Nat.zero_le time)

theorem Since.append_left (since : Since time (d₁ ++ d₂)) : Since time d₁ := by
  induction d₁ generalizing time with
  | nil => trivial
  | cons x d₁ ih =>
      obtain ⟨query, answer⟩ := x
      cases query with
      | now => exact ⟨since.1, ih since.2⟩
      | sleep | request | ended | record => exact ih since

theorem Since.append_right (since : Since time (d₁ ++ d₂)) : Since time d₂ := by
  induction d₁ generalizing time with
  | nil => exact since
  | cons x d₁ ih =>
      obtain ⟨query, answer⟩ := x
      cases query with
      | now => exact (ih since.2).mono since.1
      | sleep delay => exact (ih since).mono (Nat.le_add_right time _)
      | request | ended | record => exact ih since

end Pieces

section Surroundings

variable {σ α : Type} {answer : (query : Query) → StateM σ (Answer query)} {time : σ → Nat}

/-- Surroundings that keep a clock: it never runs backwards, and goes on during a pause. -/
structure Clocked (answer : (query : Query) → StateM σ (Answer query)) (time : σ → Nat) : Prop where
  onwards : ∀ query w, time w ≤ time (answer query w).2
  shown : ∀ w, time w ≤ Duration.nanos (answer .now w).1 ∧
    Duration.nanos (answer .now w).1 ≤ time (answer .now w).2
  slept : ∀ delay w, time w + atLeast delay ≤ time (answer (.sleep delay) w).2

theorem since_transcript (clocked : Clocked answer time) (p : Process Node α) (w : σ) :
    Since (time w) (p.transcript answer w) := by
  induction p generalizing w with
  | done a => trivial
  | ask query next ih =>
      have later := ih (answer query w).1 (answer query w).2
      cases query with
      | now => exact ⟨(clocked.shown w).1, later.mono (clocked.shown w).2⟩
      | sleep delay => exact later.mono (clocked.slept delay w)
      | request r => exact later.mono (clocked.onwards (.request r) w)
      | ended others => exact later.mono (clocked.onwards (.ended others) w)
      | record event => exact later.mono (clocked.onwards (.record event) w)

theorem timely_transcript (clocked : Clocked answer time) (p : Process Node α) (w : σ) :
    Timely (p.transcript answer w) := (since_transcript clocked p w).timely

end Surroundings

end Node

namespace NodeScript

theorem clock_reply (n : NodeScript) (r : Node.Request) : (n.reply r).2.clock = n.clock := by
  have clock_take : ∀ method, (n.take method).2.clock = n.clock := by
    intro method
    rw [take]
    split <;> rfl
  cases r with
  | call target data => rfl
  | blockNumber | send | receipt => exact clock_take _

theorem clocked : Node.Clocked NodeScript.answer fun n => n.clock.nanos where
  onwards query n := by
    cases query with
    | request r => exact Nat.le_of_eq (congrArg Duration.nanos (clock_reply n r)).symm
    | now | ended | record => exact Nat.le_refl _
    | sleep delay => exact Nat.le_add_right _ _
  shown n := ⟨Nat.le_refl _, Nat.le_refl _⟩
  slept delay n := Nat.add_le_add_left (Nat.min_le_left ..) _

end NodeScript

end Arbitrage
