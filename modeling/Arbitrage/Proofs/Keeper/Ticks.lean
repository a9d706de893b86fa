import Arbitrage.Proofs.Chain.Ticks
import Arbitrage.Proofs.Keeper.Watch

/-!
# A keeper that loses no block

A poller tells only of blocks that are newer than all before, and so does the keeper work only on such
blocks. Both judge by themselves. Between two polls the last block that the keeper worked on is the
last one that the poller told of (`Poll.Sound.works`), so the two never disagree: every tick is worked
on, and every head that the chain shows is in some tick or passed over by one (`follow_gapless`).
-/

namespace Arbitrage

open World Process World.Dialogue

namespace Watch

variable {σ : Type} {polls : Nat}

/-- What is asked and answered while the source looks for news. -/
def asking (history : List (Poll σ)) : Dialogue := history.flatMap Poll.asking

/-- The ticks that a source tells, in the order of the polls. -/
def ticks (history : List (Poll σ)) : List Tick := history.filterMap fun p => Poller.tickOf p.news

/-- A keeper that has worked on no block, and a poller that has told of none. -/
def fresh (k : Keeper) (interval : Duration) : Watch Poller :=
  ⟨{ k with last := none }, ⟨interval, none⟩, 0⟩

section Polls

variable {k k' : Keeper} {news : Option (Except Failure Tick)} {d : Dialogue}
  {worked : Option (Nat × Except Failure Outcome)} {stop : Option Failure} {p : Poll Poller}

/-- A keeper works on the tick that it is told, if that is newer than its last block. -/
theorem Acts.worked_eq (acts : Acts k news d worked stop k')
    (newer : ∀ tick, Poller.tickOf news = some tick → ∀ last ∈ k.last, last < tick.block) :
    worked.map Prod.fst = (Poller.tickOf news).map Tick.block := by
  cases acts with
  | passed known old => exact absurd (newer _ rfl _ known) (Nat.not_lt_of_le old)
  | _ => rfl

theorem Acts.heads_eq (acts : Acts k news d worked stop k') : d.heads = [] := by
  cases acts with
  | worked new course => exact Keeper.heads_of_processBlock course
  | _ => rfl

theorem Poll.Sound.looks (sound : p.Sound (Poller.next polls)) :
    p.before.source.Looks polls p.asking p.news p.after.source :=
  Poller.looks_of_course sound.asked

theorem Poll.Sound.tells (sound : p.Sound (Poller.next polls)) :
    p.before.source.Tells p.asking p.news p.after.source := sound.looks.tells

/-- A keeper that is level with its poller works on what it is told, and is level with it again. -/
theorem Poll.Sound.works (sound : p.Sound (Poller.next polls))
    (level : p.before.keeper.last = p.before.source.last) :
    p.worked.map Prod.fst = (Poller.tickOf p.news).map Tick.block ∧
      p.after.keeper.last = p.after.source.last := by
  obtain ⟨state, told⟩ := sound.tells
  have newer : ∀ tick, Poller.tickOf p.news = some tick →
      ∀ last ∈ p.before.keeper.last, last < tick.block := by
    intro tick some last known
    have increasing := (Poller.gapless_ticks p.before.source p.asking.heads).increasing
    rw [told, some, ← level, known] at increasing
    exact (List.pairwise_cons.mp increasing).1 _ (List.mem_singleton.mpr rfl)
  have worked := sound.acted.worked_eq newer
  refine ⟨worked, ?_⟩
  rw [sound.acted.last_eq, worked, level, state, Poller.last_noting, told]
  cases Poller.tickOf p.news <;> rfl

end Polls

section Runs

variable {next : BlockSource σ} {v v' : Watch σ} {all : List (Poll σ)} {w w' : Watch Poller}
  {history : List (Poll Poller)} {stop : Option Failure}

theorem Run.exists_take (run : Run next v all stop v') (i : Nat) :
    ∃ stop v', Run next v (all.take i) stop v' := by
  cases listed : all[i]? with
  | some p => exact ⟨none, p.before, run.take listed⟩
  | none =>
      rw [List.take_of_length_le (List.getElem?_eq_none_iff.mp listed)]
      exact ⟨stop, v', run⟩

/-- The source alone looks at the heads of the chain, so that the work on a block shows it none. -/
theorem Run.heads_eq (run : Run next v all stop v') : (dialogue all).heads = (asking all).heads := by
  induction run with
  | rest w => rfl
  | @ended p e sound failed =>
      rw [dialogue, asking, List.flatMap_singleton, List.flatMap_singleton, heads_append,
        sound.acted.heads_eq, List.append_nil]
  | @onwards p later stop w sound unfailed _ ih =>
      rw [dialogue, asking, List.flatMap_cons, List.flatMap_cons, ← dialogue, ← asking, heads_append,
        heads_append, heads_append, ih, sound.acted.heads_eq, List.append_nil]

/-- In a run a poller tells what it has to tell of the heads that it got. -/
theorem Run.ticks_eq (run : Run (Poller.next polls) w history stop w') :
    ticks history = w.source.ticks (asking history).heads := by
  induction run with
  | rest w => rfl
  | @ended p e sound failed =>
      rw [asking, List.flatMap_singleton, sound.tells.ticks_eq, ticks, List.filterMap_cons]
      cases Poller.tickOf p.news <;> rfl
  | @onwards p history stop w sound unfailed _ ih =>
      obtain ⟨state, told⟩ := sound.tells
      have rest : ticks history = (p.before.source.noting p.asking.heads).ticks
          (asking history).heads := by rw [← state, ih]
      rw [asking, List.flatMap_cons, ← asking, heads_append, Poller.ticks_append, told, ← rest,
        ticks, List.filterMap_cons]
      cases Poller.tickOf p.news <;> rfl

/-- A keeper that starts level with its poller works on every tick. -/
theorem Run.works (run : Run (Poller.next polls) w history stop w')
    (level : w.keeper.last = w.source.last) :
    ∀ p ∈ history, p.worked.map Prod.fst = (Poller.tickOf p.news).map Tick.block := by
  induction run with
  | rest w => exact List.forall_mem_nil _
  | ended sound failed => exact List.forall_mem_singleton.mpr (sound.works level).1
  | onwards sound unfailed _ ih =>
      obtain ⟨worked, again⟩ := sound.works level
      exact List.forall_mem_cons.mpr ⟨worked, ih again⟩

/-- The ticks of a poller account for every block, whatever heads it gets: they are increasing, there
is one exactly for each head that exceeds all before it, and each counts the blocks passed over since
the one before. A keeper that starts afresh with such a poller, in any surroundings, looks at the head
of the chain in every round, until there is news or the polls are used up on heads that are none. It
gets exactly the ticks for the heads that the chain shows, poll by poll and in all, and works on every
one of them. -/
theorem follow_gapless {ρ : Type} (answer : (query : World.Query) → StateM ρ (World.Answer query))
    (world : ρ) (k : Keeper) (interval : Duration) (polls rounds : Nat) :
    (∀ heads, Poller.Accounts ⟨interval, none⟩ heads) ∧
    ∃ history stop w',
      ((follow (Poller.next polls) rounds (fresh k interval)).run answer world).1 = (stop, w') ∧
      (follow (Poller.next polls) rounds (fresh k interval)).transcript answer world =
        dialogue history ∧
      Run (Poller.next polls) (fresh k interval) history stop w' ∧
      (stop = none → history.length = rounds) ∧
      (∀ p ∈ history, p.before.source.Looks polls p.asking p.news p.after.source) ∧
      (∀ i, ticks (history.take i) =
        Poller.ticks ⟨interval, none⟩ (asking (history.take i)).heads) ∧
      ticks history = Poller.ticks ⟨interval, none⟩ (dialogue history).heads ∧
      (∀ p ∈ history, p.worked.map Prod.fst = (Poller.tickOf p.news).map Tick.block) ∧
      blocks history = (ticks history).map Tick.block := by
  refine ⟨Poller.accounts interval, ?_⟩
  obtain ⟨history, stop, w', result, all, run, used, -⟩ :=
    exists_run answer world (Poller.next polls) rounds (fresh k interval)
  have worked := run.works rfl
  refine ⟨history, stop, w', result, all, run, used, fun p listed => (run.sound p listed).looks, ?_,
    ?_, worked, ?_⟩
  · intro i
    obtain ⟨_, _, before⟩ := run.exists_take i
    exact before.ticks_eq
  · rw [run.heads_eq]
    exact run.ticks_eq
  · rw [blocks, ticks, List.map_filterMap]
    exact List.filterMap_congr worked

/-- A chain that falls back by a block before it moves on. -/
def fallingBack : Script where
  tokens := Scenario.tokens
  vaults := { standing := .ok Scenario.vault }
  balance := .ofUnits 1000
  heads := ⟨[.ok 5, .ok 5, .ok 4, .ok 9], .error (.chain (.unreachable "off"))⟩

/-- In two rounds of up to three polls the keeper is shown the heads 5, 5, 4 and 9. The second of them
tells it nothing, nor does the third. It works on the blocks 5 and 9, with three passed over. -/
theorem follow_gapless_fallingBack :
    ∃ (history : List (Poll Poller)) (w' : Watch Poller),
      ((follow (Poller.next 3) 2 (fresh SimulatedChain.gemKeeper (.ofSeconds 1))).run Script.answer
        fallingBack).1 = (none, w') ∧
      (follow (Poller.next 3) 2 (fresh SimulatedChain.gemKeeper (.ofSeconds 1))).transcript
        Script.answer fallingBack = dialogue history ∧
      (dialogue history).heads = [5, 5, 4, 9] ∧ history.length = 2 ∧
      ticks history = [⟨5, 0⟩, ⟨9, 3⟩] ∧ blocks history = [5, 9] := by
  have shown : heads ((follow (Poller.next 3) 2
      (fresh SimulatedChain.gemKeeper (.ofSeconds 1))).transcript Script.answer fallingBack) =
        [5, 5, 4, 9] := by
    decide +kernel
  have unfailed : ((follow (Poller.next 3) 2
      (fresh SimulatedChain.gemKeeper (.ofSeconds 1))).run Script.answer fallingBack).1.1 = none := by
    decide +kernel
  obtain ⟨-, history, stop, w', result, all, -, used, -, -, ticks_eq, -, blocks_eq⟩ :=
    follow_gapless Script.answer fallingBack SimulatedChain.gemKeeper (.ofSeconds 1) 3 2
  rw [result] at unfailed
  obtain rfl : stop = none := unfailed
  rw [all] at shown
  have told : ticks history = [⟨5, 0⟩, ⟨9, 3⟩] := by
    rw [ticks_eq, shown]
    decide
  refine ⟨history, w', result, all, shown, used rfl, told, ?_⟩
  rw [blocks_eq, told]
  rfl

end Runs

end Watch

end Arbitrage
