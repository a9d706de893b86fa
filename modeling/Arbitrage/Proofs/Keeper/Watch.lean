import Arbitrage.Keeper.Watch
import Arbitrage.Proofs.Keeper.Block

/-!
# Following the chain, whatever it tells

A watch asks its source again and again. `Acts` lists what it can do about the news, `Poll` keeps
what happened from one question to the next, and `Run` puts polls together until one of them ends
the watch. Nothing else can happen (`course_follow`).

What a poll keeps is kept by a run: the keeper rests between two polls and has taken down the newest
block that it worked on. So it works on every block once, and on ever newer ones
(`follow_orderly`).
-/

namespace Arbitrage

open World Process World.Dialogue

namespace Watch

variable {σ : Type} {next : BlockSource σ}

/-- The failure with which a block ends the watch, if it does. -/
def failure? : Except Failure Outcome → Option Failure
  | .ok _ => none
  | .error e => some e

/-- What a keeper does about the news: what is asked and answered meanwhile, the block that is
worked on and what comes of it, the failure that ends the watch, and the keeper afterwards. -/
inductive Acts (k : Keeper) : Option (Except Failure Tick) → Dialogue →
    Option (Nat × Except Failure Outcome) → Option Failure → Keeper → Prop
  | idle : Acts k none [] none none k
  | passed {tick : Tick} {last : Nat} (known : k.last = some last) (old : tick.block ≤ last) :
      Acts k (some (.ok tick)) [] none none k
  | worked {tick : Tick} {d : Dialogue} {outcome : Except Failure Outcome} {k' : Keeper}
      (new : ∀ last, k.last = some last → last < tick.block)
      (course : (k.processBlock tick.block).Course d (outcome, k')) :
      Acts k (some (.ok tick)) d (some (tick.block, outcome)) (failure? outcome) k'
  | paused {e : Failure} {delay : Duration} (transient : e.isTransient = true) :
      Acts k (some (.error e)) [⟨.record (.pollFailed e delay), ()⟩, ⟨.sleep delay, ()⟩] none none k
  | ended {e : Failure} (permanent : e.isTransient = false) :
      Acts k (some (.error e)) [] none (some e) k

/-- What happens from one question to the source to the next. -/
structure Poll (σ : Type) where
  before : Watch σ
  asking : Dialogue
  news : Option (Except Failure Tick)
  acting : Dialogue
  /-- The block that was worked on, and what came of it. -/
  worked : Option (Nat × Except Failure Outcome)
  stop : Option Failure
  after : Watch σ

/-- The source is asked, and the keeper acts on what it tells. -/
structure Poll.Sound (next : BlockSource σ) (p : Poll σ) : Prop where
  asked : (next p.before.source).Course p.asking (p.news, p.after.source)
  acted : Acts p.before.keeper p.news p.acting p.worked p.stop p.after.keeper

/-- A poll is all of one step of the watch: its state before and after, and all that was asked in
between. -/
def Poll.Stepped (next : BlockSource σ) (p : Poll σ) : Prop :=
  (p.before.step next).Course (p.asking ++ p.acting) (p.stop, p.after)

/-- One poll after the other, until a failure ends the watch. -/
inductive Run (next : BlockSource σ) :
    Watch σ → List (Poll σ) → Option Failure → Watch σ → Prop
  | rest (w : Watch σ) : Run next w [] none w
  | ended {p : Poll σ} {e : Failure} (sound : p.Sound next) (failed : p.stop = some e) :
      Run next p.before [p] (some e) p.after
  | onwards {p : Poll σ} {polls : List (Poll σ)} {stop : Option Failure} {w : Watch σ}
      (sound : p.Sound next) (unfailed : p.stop = none) (later : Run next p.after polls stop w) :
      Run next p.before (p :: polls) stop w

def dialogue (polls : List (Poll σ)) : Dialogue := polls.flatMap fun p => p.asking ++ p.acting

def acting (polls : List (Poll σ)) : Dialogue := polls.flatMap Poll.acting

/-- The blocks that are worked on, in the order of the polls, whatever came of them. -/
def blocks (polls : List (Poll σ)) : List Nat := polls.filterMap fun p => p.worked.map Prod.fst

section Courses

variable {w w' : Watch σ} {d : Dialogue} {stop : Option Failure}

theorem isNew_iff {block : Nat} :
    w.isNew block = true ↔ ∀ last, w.keeper.last = some last → last < block := by
  rw [isNew]
  cases w.keeper.last <;> simp

/-- A block is worked on exactly if it is newer than the last one. -/
theorem course_work {tick : Tick} (course : (w.work tick.block).Course d (stop, w')) :
    ∃ worked, Acts w.keeper (some (.ok tick)) d worked stop w'.keeper ∧ w'.source = w.source := by
  rw [work] at course
  dsimp only at course
  split at course
  · next new =>
      obtain ⟨_, ⟨outcome, k'⟩, _, rfl, processed, rest⟩ := course_bind_iff.mp course
      have acts := Acts.worked (isNew_iff.mp new) processed
      cases outcome with
      | ok outcome =>
          obtain ⟨rfl, same⟩ := course_done_iff.mp rest
          cases same
          rw [List.append_nil]
          exact ⟨_, acts, rfl⟩
      | error e =>
          obtain ⟨rfl, same⟩ := course_done_iff.mp rest
          cases same
          rw [List.append_nil]
          exact ⟨_, acts, rfl⟩
  · next old =>
      obtain ⟨rfl, same⟩ := course_done_iff.mp course
      cases same
      have known : ∃ last, w.keeper.last = some last ∧ tick.block ≤ last := by
        by_contra none
        refine old (isNew_iff.mpr fun last known => ?_)
        exact Nat.lt_of_not_le fun le => none ⟨last, known, le⟩
      obtain ⟨last, known, le⟩ := known
      exact ⟨_, .passed known le, rfl⟩

theorem course_step (course : (w.step next).Course d (stop, w')) :
    ∃ p : Poll σ, p.before = w ∧ p.after = w' ∧ p.stop = stop ∧ d = p.asking ++ p.acting ∧
      p.Sound next := by
  obtain ⟨asking, ⟨news, source⟩, acting, rfl, asked, act⟩ := course_bind_iff.mp course
  suffices acted : ∃ worked, Acts w.keeper news acting worked stop w'.keeper ∧
      w'.source = source by
    obtain ⟨worked, acts, rfl⟩ := acted
    exact ⟨⟨w, asking, news, acting, worked, stop, w'⟩, rfl, rfl, rfl, rfl, asked, acts⟩
  dsimp only at act
  split at act
  · obtain ⟨rfl, same⟩ := course_done_iff.mp act
    cases same
    exact ⟨_, .idle, rfl⟩
  · next tick => exact course_work act
  · next e =>
      split at act
      · next transient =>
          obtain ⟨_, _, rfl, waiting⟩ := course_request_bind_iff.mp act
          obtain ⟨_, _, rfl, ended⟩ := course_request_bind_iff.mp waiting
          obtain ⟨rfl, same⟩ := course_done_iff.mp ended
          cases same
          exact ⟨_, .paused transient, rfl⟩
      · next permanent =>
          obtain ⟨rfl, same⟩ := course_done_iff.mp act
          cases same
          exact ⟨_, .ended (by simpa using permanent), rfl⟩

/-- Following the chain is a run of steps; without a failure it makes use of all polls. -/
theorem course_follow_stepped {polls : Nat} (course : (follow next polls w).Course d (stop, w')) :
    ∃ history, d = dialogue history ∧ Run next w history stop w' ∧
      (stop = none → history.length = polls) ∧ ∀ p ∈ history, p.Stepped next := by
  induction polls generalizing w d with
  | zero =>
      obtain ⟨rfl, same⟩ := course_done_iff.mp course
      cases same
      exact ⟨[], rfl, .rest _, fun _ => rfl, List.forall_mem_nil _⟩
  | succ polls ih =>
      obtain ⟨_, ⟨failed, between⟩, _, rfl, stepped, rest⟩ := course_bind_iff.mp course
      obtain ⟨p, rfl, rfl, stopped, rfl, sound⟩ := course_step stepped
      rw [← stopped] at stepped
      cases failed with
      | some e =>
          obtain ⟨rfl, same⟩ := course_done_iff.mp rest
          cases same
          exact ⟨[p], by simp [dialogue], .ended sound stopped, nofun,
            List.forall_mem_singleton.mpr stepped⟩
      | none =>
          obtain ⟨history, rfl, run, used, others⟩ := ih rest
          refine ⟨p :: history, rfl, .onwards sound stopped run, fun unfailed => ?_,
            List.forall_mem_cons.mpr ⟨stepped, others⟩⟩
          rw [List.length_cons, used unfailed]

theorem course_follow {polls : Nat} (course : (follow next polls w).Course d (stop, w')) :
    ∃ history, d = dialogue history ∧ Run next w history stop w' ∧
      (stop = none → history.length = polls) := by
  obtain ⟨history, all, run, used, -⟩ := course_follow_stepped course
  exact ⟨history, all, run, used⟩

/-- In any surroundings, to follow the chain is a run of steps. -/
theorem exists_run {ρ : Type} (answer : (query : World.Query) → StateM ρ (World.Answer query))
    (world : ρ) (next : BlockSource σ) (polls : Nat) (w : Watch σ) :
    ∃ history stop w', ((follow next polls w).run answer world).1 = (stop, w') ∧
      (follow next polls w).transcript answer world = dialogue history ∧
      Run next w history stop w' ∧ (stop = none → history.length = polls) ∧
      ∀ p ∈ history, p.Stepped next := by
  have course := course_transcript answer (follow next polls w) world
  generalize told : ((follow next polls w).run answer world).1 = result at course
  obtain ⟨stop, w'⟩ := result
  obtain ⟨history, all, run, used, stepped⟩ := course_follow_stepped course
  exact ⟨history, stop, w', rfl, all, run, used, stepped⟩

end Courses

section Polls

variable {k k' : Keeper} {news : Option (Except Failure Tick)} {d d₁ d₂ : Dialogue}
  {worked : Option (Nat × Except Failure Outcome)} {stop : Option Failure}

theorem Acts.keeper_eq (acts : Acts k news d worked stop k') :
    k' = { k with last := (worked.map Prod.fst).or k.last } := by
  cases acts with
  | worked new course => exact (Keeper.course_processBlock course).1
  | _ => rfl

theorem Acts.last_eq (acts : Acts k news d worked stop k') :
    k'.last = (worked.map Prod.fst).or k.last := by
  rw [acts.keeper_eq]

/-- A block that is worked on is newer than the last one. -/
theorem Acts.last_lt (acts : Acts k news d worked stop k') {block : Nat}
    (named : worked.map Prod.fst = some block) : ∀ last ∈ k.last, last < block := by
  cases acts with
  | worked new course =>
      cases named
      exact new
  | _ => cases named

/-- A failure that ends the watch is one of the source that will not pass, or that of a block. -/
theorem Acts.stop_eq_some_iff (acts : Acts k news d worked stop k') {e : Failure} :
    stop = some e ↔ news = some (.error e) ∧ e.isTransient = false ∨
      ∃ block, worked = some (block, .error e) := by
  cases acts with
  | idle => simp
  | passed => simp
  | @worked tick _ outcome => cases outcome <;> simp [failure?]
  | paused transient =>
      simp only [reduceCtorEq, exists_const, or_false, false_iff, not_and, Bool.not_eq_false]
      rintro ⟨⟩
      exact transient
  | ended permanent =>
      simp only [Option.some.injEq, Except.error.injEq, reduceCtorEq, exists_const, or_false]
      constructor
      · rintro rfl
        exact ⟨rfl, permanent⟩
      · exact And.left

/-- The phase that a keeper is in after a dialogue that found it idle. -/
def phaseAfter (d : Dialogue) : Phase := (Trace.phases (d.map asked)).getLast?.getD .idle

theorem phaseAfter_append (resting : phaseAfter d₁ = .idle) :
    phaseAfter (d₁ ++ d₂) = phaseAfter d₂ := by
  -- If the second part enters no phase, the keeper is left where the first part left it.
  have joined : Trace.phases ((d₁ ++ d₂).map asked) =
      Trace.phases (d₁.map asked) ++ Trace.phases (d₂.map asked) := by
    rw [List.map_append, Trace.phases, List.filterMap_append]
    rfl
  rw [phaseAfter, joined, List.getLast?_append, phaseAfter]
  cases (Trace.phases (d₂.map asked)).getLast? with
  | some phase => rfl
  | none => exact resting

/-- Whatever it does about the news, the keeper is idle again in the end. -/
theorem Acts.phaseAfter_eq (acts : Acts k news d worked stop k') : phaseAfter d = .idle := by
  cases acts with
  | worked new course =>
      obtain ⟨entered, -, phases⟩ := (Keeper.settles_of_course course).phases_eq
      rw [phaseAfter, phases, List.getLast?_concat]
      rfl
  | _ => rfl

end Polls

section Runs

variable {w w' : Watch σ} {history : List (Poll σ)} {stop : Option Failure} {p : Poll σ}

theorem Run.take (run : Run next w history stop w') {i : Nat} (listed : history[i]? = some p) :
    Run next w (history.take i) none p.before := by
  induction run generalizing i with
  | rest w => cases listed
  | @ended first e sound failed =>
      cases i with
      | zero =>
          cases listed
          exact .rest _
      | succ i => cases listed
  | @onwards first later stop w sound unfailed _ ih =>
      cases i with
      | zero =>
          cases listed
          exact .rest _
      | succ i => exact .onwards sound unfailed (ih listed)

theorem blocks_cons (p : Poll σ) (polls : List (Poll σ)) :
    blocks (p :: polls) = (p.worked.map Prod.fst).toList ++ blocks polls := by
  rw [blocks, List.filterMap_cons]
  cases p.worked <;> rfl

/-- The newest block worked on is taken down, and nothing else about the keeper has changed. -/
theorem Run.keeper_eq (run : Run next w history stop w') :
    w'.keeper = { w.keeper with last := (blocks history).getLast?.or w.keeper.last } := by
  induction run with
  | rest w => rfl
  | @ended p e sound failed =>
      rw [sound.acted.keeper_eq, blocks_cons]
      cases p.worked <;> rfl
  | @onwards p polls stop w sound unfailed _ ih =>
      rw [ih, sound.acted.keeper_eq, blocks_cons, List.getLast?_append]
      cases (blocks polls).getLast? <;> cases p.worked <;> rfl

/-- What is newer than the last block after a poll is newer than the last one before it, and than the
block that is worked on in between. -/
theorem Poll.Sound.increasing (sound : p.Sound next) {later : List Nat}
    (rest : (p.after.keeper.last.toList ++ later).Pairwise (· < ·)) :
    (p.before.keeper.last.toList ++ ((p.worked.map Prod.fst).toList ++ later)).Pairwise
      (· < ·) := by
  rw [sound.acted.last_eq] at rest
  cases named : p.worked.map Prod.fst with
  | none =>
      rw [named] at rest
      exact rest
  | some block =>
      rw [named] at rest
      have newest := (List.pairwise_cons.mp rest).1
      have newer := sound.acted.last_lt named
      refine List.pairwise_append.mpr ⟨?_, rest, ?_⟩
      · cases p.before.keeper.last <;> simp
      · intro last known b listed
        have first : last < block := newer last (Option.mem_toList.mp known)
        rcases List.mem_cons.mp listed with rfl | among
        · exact first
        · exact Nat.lt_trans first (newest b among)

/-- Every block worked on is newer than all before. -/
theorem Run.increasing (run : Run next w history stop w') :
    (w.keeper.last.toList ++ blocks history).Pairwise (· < ·) := by
  induction run with
  | rest w => cases w.keeper.last <;> simp [blocks]
  | @ended p e sound failed =>
      rw [blocks_cons]
      refine sound.increasing ?_
      cases p.after.keeper.last <;> simp [blocks]
  | @onwards p polls stop w sound unfailed _ ih =>
      rw [blocks_cons]
      exact sound.increasing ih

/-- Between two polls the keeper is idle, whatever it has done in the polls before. -/
theorem Run.phaseAfter_eq (run : Run next w history stop w') :
    phaseAfter (acting history) = .idle := by
  induction run with
  | rest w => rfl
  | @ended p e sound failed =>
      rw [acting, List.flatMap_singleton]
      exact sound.acted.phaseAfter_eq
  | @onwards p polls stop w sound unfailed _ ih =>
      rw [acting, List.flatMap_cons, phaseAfter_append sound.acted.phaseAfter_eq]
      exact ih

theorem Run.sound (run : Run next w history stop w') : ∀ p ∈ history, p.Sound next := by
  induction run with
  | rest w => exact List.forall_mem_nil _
  | ended sound failed => exact List.forall_mem_singleton.mpr sound
  | onwards sound unfailed _ ih => exact List.forall_mem_cons.mpr ⟨sound, ih⟩

/-- The last poll decides whether the watch ends, and none before it does. -/
theorem Run.stop_eq (run : Run next w history stop w') :
    stop = history.getLast?.bind Poll.stop ∧ ∀ p ∈ history.dropLast, p.stop = none := by
  induction run with
  | rest w => exact ⟨rfl, List.forall_mem_nil _⟩
  | ended sound failed => exact ⟨failed.symm, List.forall_mem_nil _⟩
  | @onwards p polls stop w sound unfailed _ ih =>
      obtain ⟨last, others⟩ := ih
      cases polls with
      | nil => exact ⟨last.trans unfailed.symm, List.forall_mem_nil _⟩
      | cons second polls =>
          rw [List.getLast?_cons_cons, List.dropLast_cons_cons]
          exact ⟨last, List.forall_mem_cons.mpr ⟨unfailed, others⟩⟩

/-- How a watch deals with the blocks that its source tells of. -/
structure Orderly (w : Watch σ) (history : List (Poll σ)) (stop : Option Failure)
    (w' : Watch σ) : Prop where
  /-- Every block that is worked on is newer than all before it. -/
  increasing : (w.keeper.last.toList ++ blocks history).Pairwise (· < ·)
  /-- Whenever the source is asked, the keeper is idle and has taken down the newest block. -/
  resting : ∀ i p, history[i]? = some p →
    p.before.keeper =
        { w.keeper with last := (blocks (history.take i)).getLast?.or w.keeper.last } ∧
      phaseAfter (acting (history.take i)) = .idle
  /-- So it has in the end. -/
  rested : w'.keeper = { w.keeper with last := (blocks history).getLast?.or w.keeper.last } ∧
    phaseAfter (acting history) = .idle
  /-- Nothing ends the watch but a failure of the source that will not pass, or that of a block. -/
  stop_iff : ∀ e, stop = some e ↔ ∃ p, history.getLast? = some p ∧
    (p.news = some (.error e) ∧ e.isTransient = false ∨
      ∃ block, p.worked = some (block, .error e))
  /-- And the first of these does. -/
  first : ∀ p ∈ history.dropLast, (∀ e, p.news = some (.error e) → e.isTransient = true) ∧
    ∀ block e, p.worked ≠ some (block, .error e)

theorem Run.orderly (run : Run next w history stop w') : Orderly w history stop w' := by
  obtain ⟨last, others⟩ := run.stop_eq
  constructor
  · exact run.increasing
  · intro i p listed
    have before := run.take listed
    exact ⟨before.keeper_eq, before.phaseAfter_eq⟩
  · exact ⟨run.keeper_eq, run.phaseAfter_eq⟩
  · intro e
    rw [last, Option.bind_eq_some_iff]
    refine exists_congr fun p => and_congr_right fun newest => ?_
    exact (run.sound p (List.mem_of_getLast? newest)).acted.stop_eq_some_iff
  · intro p listed
    have acted := (run.sound p (List.mem_of_mem_dropLast listed)).acted
    have unfailed := others p listed
    constructor
    · intro e told
      by_contra permanent
      have lasting : e.isTransient = false := Bool.eq_false_of_not_eq_true permanent
      exact nomatch unfailed.symm.trans (acted.stop_eq_some_iff.mpr (.inl ⟨told, lasting⟩))
    · intro block e worked
      exact nomatch unfailed.symm.trans (acted.stop_eq_some_iff.mpr (.inr ⟨block, worked⟩))

/-- In any surroundings, and whatever its source tells of, a watch is a run of polls: it works on
exactly the blocks that are newer than the last one worked on, rests in between, waits when the
source fails in passing, and ends with the first failure that is not confined to a block. -/
theorem follow_orderly {ρ : Type} (answer : (query : World.Query) → StateM ρ (World.Answer query))
    (world : ρ) (next : BlockSource σ) (polls : Nat) (w : Watch σ) :
    ∃ history stop w', ((follow next polls w).run answer world).1 = (stop, w') ∧
      (follow next polls w).transcript answer world = dialogue history ∧
      Run next w history stop w' ∧ Orderly w history stop w' ∧
      (stop = none → history.length = polls) := by
  have course := course_transcript answer (follow next polls w) world
  generalize told : ((follow next polls w).run answer world).1 = result at course
  obtain ⟨stop, w'⟩ := result
  obtain ⟨history, all, run, used⟩ := course_follow course
  exact ⟨history, stop, w', rfl, all, run, run.orderly, used⟩

/-- News that repeats itself, falls back, and once does not arrive. -/
def wavering : List (Except Failure Tick) :=
  [.ok ⟨5, 0⟩, .error (.chain (.transient "timeout")), .ok ⟨5, 0⟩, .ok ⟨4, 0⟩, .ok ⟨6, 0⟩]

/-- Told of the blocks 5, 5, 4 and 6, with a failure in between, the keeper goes through the phases
twice. It ends with the failure of a source that has no more to tell, idle, and with block 6 as the
last one worked on. -/
theorem follow_orderly_wavering :
    ∃ (history : List (Poll (List (Except Failure Tick)))) (e : Failure)
      (w' : Watch (List (Except Failure Tick))),
      ((follow .ofList 9 ⟨SimulatedChain.gemKeeper, wavering, 0⟩).run Script.answer
        (Scenario.unsteady 0)).1 = (some e, w') ∧ e.isTransient = false ∧
      (follow .ofList 9 ⟨SimulatedChain.gemKeeper, wavering, 0⟩).transcript Script.answer
        (Scenario.unsteady 0) = dialogue history ∧
      Orderly ⟨SimulatedChain.gemKeeper, wavering, 0⟩ history (some e) w' ∧
      Trace.phases ((dialogue history).map asked) =
        [.snapshot, .enumerate, .evaluate, .idle, .snapshot, .enumerate, .evaluate, .idle] ∧
      w'.keeper.last = some 6 ∧ (blocks history).getLast? = some 6 := by
  obtain ⟨history, stop, w', result, all, -, orderly, -⟩ :=
    follow_orderly Script.answer (Scenario.unsteady 0) .ofList 9
      ⟨SimulatedChain.gemKeeper, wavering, 0⟩
  have computed : (((follow .ofList 9 ⟨SimulatedChain.gemKeeper, wavering, 0⟩).run Script.answer
      (Scenario.unsteady 0)).1.1.map Failure.isTransient = some false) ∧
      ((follow .ofList 9 ⟨SimulatedChain.gemKeeper, wavering, 0⟩).run Script.answer
        (Scenario.unsteady 0)).1.2.keeper.last = some 6 := by
    decide +kernel
  rw [result] at computed
  obtain ⟨ended, newest⟩ := computed
  obtain ⟨e, rfl, permanent⟩ := Option.map_eq_some_iff.mp ended
  refine ⟨history, e, w', result, permanent, all, orderly, ?_, newest, ?_⟩
  · rw [← all]
    decide +kernel
  · have rested := congrArg Keeper.last orderly.rested.1
    rw [newest] at rested
    exact (Option.or_none.symm.trans rested.symm)

end Runs

end Watch

end Arbitrage
