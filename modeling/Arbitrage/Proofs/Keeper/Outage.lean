import Arbitrage.Proofs.Keeper.Watch
import Mathlib.Data.List.TakeWhile

/-!
# Through an outage

While its source fails in passing, a keeper pauses after every failure and asks again. How long it
pauses depends on how many polls have failed since the last that told of a block (`streak`), and that
is counted in 32 bits: the pauses grow up to the seventh failure in a row and stay there, but with
every 2³² failures the count starts again from zero (`follow_outage`). The bound on the pauses is
applied where the count is read, not where it grows, so an outage of that length is forgotten
(`follow_outage_forgotten`).
-/

namespace Arbitrage

open World Process World.Dialogue

namespace Watch

variable {σ : Type} {next : BlockSource σ}

/-- A poll that told of a block, which starts the count of failures again. -/
def Poll.told (p : Poll σ) : Bool :=
  match p.news with
  | some (.ok _) => true
  | _ => false

def Poll.failed (p : Poll σ) : Bool :=
  match p.news with
  | some (.error _) => true
  | _ => false

/-- How many polls have failed since the last one that told of a block. -/
def streak (history : List (Poll σ)) : Nat :=
  (history.reverse.takeWhile fun p => !p.told).countP Poll.failed

theorem streak_concat (history : List (Poll σ)) (p : Poll σ) : streak (history ++ [p]) =
    if p.told then 0 else streak history + if p.failed then 1 else 0 := by
  rw [streak, List.reverse_concat, List.takeWhile_cons]
  cases p.told with
  | true => rfl
  | false => exact List.countP_cons

/-- The watch goes on after a poll that failed, the keeper being what it was: the failure is reported
with the pause behind it, which is made next. The pause is that of as many retries as there have been
failures, but of no more than six. -/
structure Poll.Waits (patience : Patience) (n : Nat) (e : Failure) (p : Poll σ) : Prop where
  goes_on : p.stop = none
  keeper_eq : p.after.keeper = p.before.keeper
  acting_eq : p.acting =
    [⟨.record (.pollFailed e (patience.delay (min n mostFailures))), ()⟩,
      ⟨.sleep (patience.delay (min n mostFailures)), ()⟩]

theorem Poll.Waits.pauses_eq {patience : Patience} {n : Nat} {e : Failure} {p : Poll σ}
    (waits : p.Waits patience n e) :
    Trace.pauses (p.acting.map asked) = [patience.delay (min n mostFailures)] := by
  rw [waits.acting_eq]
  rfl

section Polls

variable {p : Poll σ} {e : Failure}

theorem Poll.Sound.waits (sound : p.Sound next) (stepped : p.Stepped next)
    (told : p.news = some (.error e)) (transient : e.isTransient = true) :
    p.Waits p.before.keeper.patience p.before.failures.toNat e ∧
      p.after.failures = p.before.failures + 1 := by
  have acting := sound.asked.rest stepped
  rw [told] at acting
  dsimp only at acting
  rw [if_pos transient] at acting
  obtain ⟨_, _, recorded, pause⟩ := course_request_bind_iff.mp acting
  obtain ⟨_, _, rfl, ended⟩ := course_request_bind_iff.mp pause
  obtain ⟨rfl, same⟩ := course_done_iff.mp ended
  obtain ⟨stop, after⟩ := Prod.mk.inj same
  exact ⟨⟨stop, by rw [after], recorded⟩, by rw [after]⟩

theorem Poll.Sound.failures_of_tick {tick : Tick} (sound : p.Sound next) (stepped : p.Stepped next)
    (told : p.news = some (.ok tick)) : p.after.failures = 0 := by
  have acting := sound.asked.rest stepped
  rw [told] at acting
  dsimp only [work] at acting
  split at acting
  · obtain ⟨_, ⟨outcome, k⟩, _, _, _, rest⟩ := course_bind_iff.mp acting
    cases outcome <;>
    · obtain ⟨_, same⟩ := course_done_iff.mp rest
      rw [(Prod.mk.inj same).2]
  · obtain ⟨_, same⟩ := course_done_iff.mp acting
    rw [(Prod.mk.inj same).2]

theorem Poll.Sound.failures_of_silence (sound : p.Sound next) (stepped : p.Stepped next)
    (silent : p.news = none) : p.after.failures = p.before.failures := by
  have acting := sound.asked.rest stepped
  rw [silent] at acting
  obtain ⟨_, same⟩ := course_done_iff.mp acting
  rw [(Prod.mk.inj same).2]

theorem Poll.Sound.failures_eq (sound : p.Sound next) (stepped : p.Stepped next)
    (unfailed : p.stop = none) : p.after.failures =
      if p.told then 0 else p.before.failures + if p.failed then 1 else 0 := by
  cases news : p.news with
  | none => simp [sound.failures_of_silence stepped news, Poll.told, Poll.failed, news]
  | some result =>
      cases result with
      | ok tick => simp [sound.failures_of_tick stepped news, Poll.told, news]
      | error e =>
          have transient : e.isTransient = true := by
            by_contra permanent
            have stopped := sound.acted.stop_eq_some_iff.mpr
              (.inl ⟨news, Bool.eq_false_of_not_eq_true permanent⟩)
            exact nomatch unfailed.symm.trans stopped
          simp [(sound.waits stepped news transient).2, Poll.told, Poll.failed, news]

end Polls

section Runs

variable {w w' : Watch σ} {history : List (Poll σ)} {stop : Option Failure} {p : Poll σ}

theorem Run.before_eq (run : Run next w (p :: history) stop w') : p.before = w := by
  cases run <;> rfl

/-- A poll that is followed by another does not end the watch, and leaves it to that. -/
theorem Run.before_next (run : Run next w history stop w') {q : Poll σ} {i : Nat}
    (first : history[i]? = some p) (second : history[i + 1]? = some q) :
    p.stop = none ∧ q.before = p.after := by
  induction run generalizing i with
  | rest w => cases first
  | ended sound failed => cases second
  | @onwards opening polls stop w sound unfailed later ih =>
      cases i with
      | zero =>
          cases first
          cases polls with
          | nil => cases second
          | cons r polls =>
              cases second
              exact ⟨unfailed, later.before_eq⟩
      | succ i => exact ih first second

/-- The count is the number of failures in a row, as far as 32 bits can tell. -/
theorem Run.failures_eq (run : Run next w history stop w') (fresh : w.failures = 0)
    (stepped : ∀ q ∈ history, q.Stepped next) {i : Nat} (listed : history[i]? = some p) :
    p.before.failures = UInt32.ofNat (streak (history.take i)) := by
  induction i generalizing p with
  | zero =>
      cases history with
      | nil => cases listed
      | cons first history =>
          cases listed
          rw [run.before_eq]
          exact fresh
  | succ i ih =>
      obtain ⟨before, -⟩ := List.getElem?_eq_some_iff.mp listed
      obtain ⟨q, earlier⟩ : ∃ q, history[i]? = some q :=
        ⟨_, List.getElem?_eq_getElem (Nat.lt_of_succ_lt before)⟩
      -- The poll starts with the count that the one before it has left.
      obtain ⟨unfailed, next⟩ := run.before_next earlier listed
      have member := List.mem_of_getElem? earlier
      have counted := (run.sound q member).failures_eq (stepped q member) unfailed
      rw [next, counted, ih earlier, List.take_add_one, earlier]
      dsimp only [Option.toList]
      rw [streak_concat]
      cases q.told <;> cases q.failed <;> simp [UInt32.ofNat_add]

/-- How a watch waits after each poll that failed in passing. -/
theorem Run.waits (run : Run next w history stop w') (fresh : w.failures = 0)
    (stepped : ∀ q ∈ history, q.Stepped next) {i : Nat} (listed : history[i]? = some p) {e : Failure}
    (told : p.news = some (.error e)) (transient : e.isTransient = true) :
    p.Waits w.keeper.patience (streak (history.take i) % 2 ^ 32) e := by
  have member := List.mem_of_getElem? listed
  have waits := ((run.sound p member).waits (stepped p member) told transient).1
  rw [(run.take listed).keeper_eq, run.failures_eq fresh stepped listed, UInt32.toNat_ofNat'] at waits
  exact waits

/-- After a poll that failed in passing there is another, unless there are to be no more. -/
theorem Run.goes_on (run : Run next w history stop w') {rounds : Nat}
    (used : stop = none → history.length = rounds) {i : Nat} (listed : history[i]? = some p)
    (unfailed : p.stop = none) : i + 1 < history.length ∨ history.length = rounds := by
  obtain ⟨within, -⟩ := List.getElem?_eq_some_iff.mp listed
  by_cases last : i + 1 = history.length
  · refine .inr (used ?_)
    have newest : history.getLast? = some p := by
      rw [List.getLast?_eq_getElem?, ← last]
      exact listed
    rw [run.stop_eq.1, newest]
    exact unfailed
  · omega

/-- In any surroundings, a keeper that starts to follow a source asks again after every poll that
failed in passing, as long as it is to ask at all. The pause before it is that of as many retries as
there were failed polls since the last that told of a block, but of no more than six; the number of
these polls is taken modulo 2³². -/
theorem follow_outage {ρ : Type} (answer : (query : World.Query) → StateM ρ (World.Answer query))
    (world : ρ) (next : BlockSource σ) (rounds : Nat) (k : Keeper) (source : σ) :
    ∃ history stop w', ((follow next rounds ⟨k, source, 0⟩).run answer world).1 = (stop, w') ∧
      (follow next rounds ⟨k, source, 0⟩).transcript answer world = dialogue history ∧
      Run next ⟨k, source, 0⟩ history stop w' ∧
      ∀ i p e, history[i]? = some p → p.news = some (.error e) → e.isTransient = true →
        p.Waits k.patience (streak (history.take i) % 2 ^ 32) e ∧
          (i + 1 < history.length ∨ history.length = rounds) := by
  obtain ⟨history, stop, w', result, all, run, used, stepped⟩ :=
    exists_run answer world next rounds ⟨k, source, 0⟩
  refine ⟨history, stop, w', result, all, run, ?_⟩
  intro i p e listed news transient
  have waits := run.waits rfl stepped listed news transient
  exact ⟨waits, run.goes_on used listed waits.goes_on⟩

def lost : Failure := .chain (.transient "timeout")

def silent : BlockSource Unit := fun source => return (some (.error lost), source)

theorem streak_eq_length {history : List (Poll σ)}
    (failing : ∀ p ∈ history, ∃ e, p.news = some (.error e)) : streak history = history.length := by
  have untold : ∀ p ∈ history.reverse, (!p.told) = true := by
    intro p listed
    obtain ⟨e, news⟩ := failing p (List.mem_reverse.mp listed)
    simp [Poll.told, news]
  have failed : ∀ p ∈ history.reverse, p.failed = true := by
    intro p listed
    obtain ⟨e, news⟩ := failing p (List.mem_reverse.mp listed)
    simp [Poll.failed, news]
  rw [streak, List.takeWhile_eq_self_iff.mpr untold, List.countP_eq_length.mpr failed,
    List.length_reverse]

/-- A source that is never within reach is asked to the end, and the pauses do not grow for ever: the
number of polls behind is taken modulo 2³². -/
theorem waits_silent {ρ : Type} (answer : (query : World.Query) → StateM ρ (World.Answer query))
    (world : ρ) (rounds : Nat) (k : Keeper) :
    ∃ history : List (Poll Unit),
      (follow silent rounds ⟨k, (), 0⟩).transcript answer world = dialogue history ∧
      history.length = rounds ∧ ∀ i p, history[i]? = some p → p.news = some (.error lost) ∧
        streak (history.take i) = i ∧ p.Waits k.patience (i % 2 ^ 32) lost := by
  obtain ⟨history, stop, w', -, all, run, used, stepped⟩ :=
    exists_run answer world silent rounds ⟨k, (), 0⟩
  have news : ∀ p ∈ history, p.news = some (.error lost) := by
    intro p listed
    obtain ⟨-, same⟩ := course_done_iff.mp (run.sound p listed).asked
    exact (Prod.mk.inj same).1
  have waits : ∀ i p, history[i]? = some p →
      streak (history.take i) = i ∧ p.Waits k.patience (i % 2 ^ 32) lost := by
    intro i p listed
    obtain ⟨within, -⟩ := List.getElem?_eq_some_iff.mp listed
    have all : streak (history.take i) = i := by
      rw [streak_eq_length fun q earlier => ⟨lost, news q (List.mem_of_mem_take earlier)⟩,
        List.length_take_of_le (Nat.le_of_lt within)]
    have waits := run.waits rfl stepped listed (news p (List.mem_of_getElem? listed)) rfl
    rw [all] at waits
    exact ⟨all, waits⟩
  have unfailed : stop = none := by
    rw [run.stop_eq.1, List.getLast?_eq_getElem?]
    cases newest : history[history.length - 1]? with
    | none => rfl
    | some p => exact (waits _ p newest).2.goes_on
  refine ⟨history, all, used unfailed, fun i p listed => ?_⟩
  exact ⟨news p (List.mem_of_getElem? listed), waits i p listed⟩

/-- After 2³² failures in a row, the next one is followed by the pause of a first failure, although no
poll has told of a block in the meantime. -/
theorem follow_outage_forgotten :
    ∃ (history : List (Poll Unit)) (p : Poll Unit),
      (follow silent (2 ^ 32 + 1) ⟨SimulatedChain.gemKeeper, (), 0⟩).transcript Script.answer
        (Scenario.unsteady 0) = dialogue history ∧
      history[2 ^ 32]? = some p ∧ p.news = some (.error lost) ∧ lost.isTransient = true ∧
      streak (history.take (2 ^ 32)) = 2 ^ 32 ∧
      Trace.pauses (p.acting.map asked) = [SimulatedChain.gemKeeper.patience.delay 0] ∧
      SimulatedChain.gemKeeper.patience.delay (min (2 ^ 32) mostFailures) ≠
        SimulatedChain.gemKeeper.patience.delay 0 := by
  obtain ⟨history, all, long, waits⟩ :=
    waits_silent Script.answer (Scenario.unsteady 0) (2 ^ 32 + 1) SimulatedChain.gemKeeper
  have within : 2 ^ 32 < history.length := by omega
  obtain ⟨p, listed⟩ : ∃ p, history[2 ^ 32]? = some p := ⟨_, List.getElem?_eq_getElem within⟩
  obtain ⟨news, failures, waited⟩ := waits _ p listed
  rw [Nat.mod_self] at waited
  exact ⟨history, p, all, listed, news, rfl, failures, waited.pauses_eq, by decide +kernel⟩

end Runs

end Watch

end Arbitrage
