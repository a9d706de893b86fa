import Arbitrage.Proofs.Keeper.Cycle
import Arbitrage.Proofs.Submission.Success

/-!
# The work on one block, whatever the world does

On its way from idle to idle the keeper can turn back at many places. `Sees` lists what can become
of reading the market, and `Turn` how the block can go on from there: which phases are entered, what
is submitted, and what the outcome is. Nothing else can happen (`course_cycle`), so that whatever is
to be known of every block is read off these few cases (`processBlock_settles`).
-/

namespace Arbitrage

open World Process World.Dialogue

namespace Keeper

variable {k k' : Keeper} {block : Nat} {d : Dialogue}

/-- Read the market for a block, with patience: a reading that failed in passing is made again as a
whole. -/
def reading (k : Keeper) (block : Nat) : Attempt MarketState :=
  persist k.patience "snapshot" (World.market block k.account k.strategy.base)

/-- What the keeper makes of what it has read: the outer failure ends the watch, the inner one skips
the block. -/
inductive Sees (k : Keeper) :
    Except Failure MarketState → Except Failure (Except Skip Snapshot) → Prop
  | unreadable (e : Failure) : k.Sees (.error e) (.ok (.error (.unavailable e.message)))
  | stale {state : MarketState}
      (taken : Snapshot.take state k.strategy k.tokens = .error .staleFeed) :
      k.Sees (.ok state) (.ok (.error .staleFeed))
  | refused {state : MarketState} {e : MarketError}
      (taken : Snapshot.take state k.strategy k.tokens = .error e) (fatal : e ≠ .staleFeed) :
      k.Sees (.ok state) (.error (.market e))
  | clear {state : MarketState} {snapshot : Snapshot}
      (taken : Snapshot.take state k.strategy k.tokens = .ok snapshot) :
      k.Sees (.ok state) (.ok (.ok snapshot))

/-- What comes of a plan, by what its submission came to. -/
def settle (report : PlanReport) : Except Failure Submission → Outcome
  | .ok submission => .executed report submission
  | .error e => .failed report e.message

/-- How a block can go on from what was read: the phases that are entered, what is asked and
answered while a plan is submitted, and the outcome. -/
inductive Turn (k : Keeper) (block : Nat) (read : Except Failure MarketState) :
    List Phase → Dialogue → Except Failure Outcome → Prop
  | refused {e : Failure} (sees : k.Sees read (.error e)) :
      k.Turn block read [.snapshot] [] (.error e)
  | skipped {reason : Skip} (sees : k.Sees read (.ok (.error reason))) :
      k.Turn block read [.snapshot] [] (.ok (.skipped reason))
  | rested {snapshot : Snapshot} (sees : k.Sees read (.ok (.ok snapshot)))
      (none : (k.evaluation snapshot).best = none) :
      k.Turn block read [.snapshot, .enumerate, .evaluate] []
        (.ok (.noOpportunity (k.evaluation snapshot).candidates
          (k.evaluation snapshot).bestRejected))
  | submitted {snapshot : Snapshot} {plan : Plan} {sent : Dialogue} {r : Except Failure Submission}
      (sees : k.Sees read (.ok (.ok snapshot)))
      (best : (k.evaluation snapshot).best = some plan)
      (course : (k.submitter.submit plan).run.Course sent r) :
      k.Turn block read [.snapshot, .enumerate, .evaluate, .submit, .settle] sent
        (.ok (settle (plan.report block) r))

section Courses

variable {snapshot : Snapshot}

theorem shows_reading {r : Except Failure MarketState}
    (course : (k.reading block).run.Course d r) : Shows d [] [] :=
  shows_of_reads course (asks_persist (fun _ reads => reads) (asks_market _ _ _))

/-- Taking a snapshot adds a report, or nothing, to what was read. -/
theorem course_snapshot {r : Except Failure (Except Skip Snapshot)}
    (course : (k.snapshot block).run.Course d r) :
    ∃ read told result, d = read ++ told ∧ (k.reading block).run.Course read result ∧
      Shows told [] [] ∧ k.Sees result r := by
  obtain ⟨read, result, told, rfl, first, rest⟩ := course_bind_iff.mp course
  refine ⟨read, told, result, rfl, first, ?_⟩
  cases result with
  | error e =>
      obtain ⟨_, _, rfl, ended⟩ := course_request_bind_iff.mp rest
      obtain ⟨rfl, rfl⟩ := course_done_iff.mp ended
      exact ⟨shows_record _, .unreadable e⟩
  | ok state =>
      have rest : (k.takeSnapshot state).run.Course told r := rest
      rw [takeSnapshot] at rest
      split at rest
      · next taken =>
          obtain ⟨_, _, rfl, ended⟩ := course_ask_iff.mp rest
          obtain ⟨rfl, rfl⟩ := course_done_iff.mp ended
          exact ⟨shows_record _, .clear taken⟩
      · next taken =>
          obtain ⟨_, _, rfl, ended⟩ := course_ask_iff.mp rest
          obtain ⟨rfl, rfl⟩ := course_done_iff.mp ended
          exact ⟨shows_record _, .stale taken⟩
      · next e fatal taken =>
          obtain ⟨rfl, rfl⟩ := course_done_iff.mp rest
          exact ⟨.nil, .refused taken fatal⟩

theorem asks_reportRejection (block : Nat) (snapshot : Snapshot) (evaluation : Evaluation) :
    (reportRejection block snapshot evaluation).Asks Reads := by
  rw [reportRejection]
  split
  · exact asks_request (reads_record _)
  · split <;> exact asks_request (reads_record _)

/-- A plan is submitted between two phases, and the outcome is what came of it. -/
theorem course_execute {plan : Plan} {report : PlanReport} {outcome : Outcome}
    (course : (k.execute plan report).Course d outcome) :
    ∃ sent told r, d = ⟨.enter .submit, ()⟩ :: (sent ++ told) ∧
      (k.submitter.submit plan).run.Course sent r ∧ Shows told [.settle] [] ∧
      outcome = settle report r := by
  obtain ⟨_, _, rfl, submitting⟩ := course_request_bind_iff.mp course
  obtain ⟨sent, r, _, rfl, submitted, settling⟩ := course_bind_iff.mp submitting
  obtain ⟨_, told, rfl, reporting⟩ := course_request_bind_iff.mp settling
  refine ⟨sent, _, r, rfl, submitted, ?_⟩
  cases r with
  | ok submission =>
      obtain ⟨_, _, rfl, again⟩ := course_request_bind_iff.mp reporting
      obtain ⟨_, _, rfl, ended⟩ := course_request_bind_iff.mp again
      obtain ⟨rfl, rfl⟩ := course_done_iff.mp ended
      exact ⟨((shows_record _).after_record _).after_enter _, rfl⟩
  | error e =>
      obtain ⟨_, _, rfl, ended⟩ := course_request_bind_iff.mp reporting
      obtain ⟨rfl, rfl⟩ := course_done_iff.mp ended
      exact ⟨(shows_record _).after_enter _, rfl⟩

/-- A snapshot is left at that unless there is a plan to its name, which is then submitted. -/
theorem course_trade {outcome : Outcome} (course : (k.trade block snapshot).Course d outcome) :
    (k.evaluation snapshot).best = none ∧ Shows d [.enumerate, .evaluate] [] ∧
        outcome = .noOpportunity (k.evaluation snapshot).candidates
          (k.evaluation snapshot).bestRejected ∨
      ∃ plan before sent told r, (k.evaluation snapshot).best = some plan ∧
        d = before ++ (sent ++ told) ∧ (k.submitter.submit plan).run.Course sent r ∧
        Shows before [.enumerate, .evaluate, .submit] [] ∧ Shows told [.settle] [] ∧
        outcome = settle (plan.report block) r := by
  obtain ⟨_, _, rfl, enumerating⟩ := course_request_bind_iff.mp course
  obtain ⟨found, cycles, _, rfl, enumerated, evaluating⟩ := course_bind_iff.mp enumerating
  obtain ⟨_, _, rfl, ended⟩ := course_request_bind_iff.mp enumerated
  obtain ⟨rfl, rfl⟩ := course_done_iff.mp ended
  obtain ⟨_, rest, rfl, choosing⟩ := course_request_bind_iff.mp evaluating
  dsimp only at choosing
  split at choosing
  · next none =>
      obtain ⟨told, _, _, rfl, reported, ended⟩ := course_bind_iff.mp choosing
      obtain ⟨rfl, rfl⟩ := course_done_iff.mp ended
      have quiet := shows_of_reads reported (asks_reportRejection _ _ _)
      rw [List.append_nil]
      exact .inl ⟨none, ((quiet.after_enter _).after_record _).after_enter _, rfl⟩
  · next plan best =>
      obtain ⟨_, _, rfl, executing⟩ := course_request_bind_iff.mp choosing
      obtain ⟨sent, told, r, rfl, submitted, shows, rfl⟩ := course_execute executing
      refine .inr ⟨plan, [⟨.enter .enumerate, ()⟩, _, ⟨.enter .evaluate, ()⟩, _,
        ⟨.enter .submit, ()⟩], sent, told, r, best, rfl, submitted, ?_, shows, rfl⟩
      exact ((((shows_enter _).after_record _).after_enter _).after_record _).after_enter _

/-- Before the keeper is idle again it has read the market and gone on by one of the turns; all that
it has asked about sending it asked while it submitted a plan. -/
theorem course_cycle {outcome : Except Failure Outcome}
    (course : (k.cycle block).run.Course d outcome) :
    ∃ read rest result entered sent, d = ⟨.enter .snapshot, ()⟩ :: (read ++ rest) ∧
      (k.reading block).run.Course read result ∧ sent <:+: rest ∧
      k.Turn block result entered sent outcome ∧
      Shows d entered (Trace.sending (sent.map asked)) := by
  obtain ⟨_, _, rfl, looking⟩ := course_ask_iff.mp course
  obtain ⟨e, failed, rfl⟩ | ⟨_, seen, rest, rfl, looked, trading⟩ := course_attempt_iff.mp looking
  · obtain ⟨read, told, result, rfl, first, quiet, sees⟩ := course_snapshot failed
    refine ⟨read, told, result, _, [], rfl, first, List.nil_infix, .refused sees, ?_⟩
    exact ((shows_reading first).append quiet).after_enter _
  obtain ⟨read, told, result, rfl, first, quiet, sees⟩ := course_snapshot looked
  have before : Shows (read ++ told) [] [] := (shows_reading first).append quiet
  refine ⟨read, told ++ rest, result, ?_⟩
  rw [List.append_assoc]
  cases seen with
  | error reason =>
      obtain ⟨rfl, rfl⟩ := course_done_iff.mp trading
      refine ⟨_, [], rfl, first, List.nil_infix, .skipped sees, ?_⟩
      rw [List.append_nil]
      exact before.after_enter _
  | ok snapshot =>
      obtain ⟨_, outcome, _, rfl, traded, ended⟩ := course_bind_iff.mp trading
      obtain ⟨rfl, rfl⟩ := course_done_iff.mp ended
      rw [List.append_nil]
      -- Without a plan nothing was submitted: the dialogue of the submission is the empty one.
      obtain ⟨none, shows, rfl⟩ |
        ⟨plan, choosing, sent, settling, r, best, rfl, submitted, chosen, settled, rfl⟩ :=
        course_trade traded
      · refine ⟨_, [], rfl, first, List.nil_infix, .rested sees none, ?_⟩
        rw [← List.append_assoc]
        exact (before.append shows).after_enter _
      · refine ⟨_, sent, rfl, first, ⟨told ++ choosing, settling, by simp⟩,
          .submitted sees best submitted, ?_⟩
        have sending := shows_of_stays submitted (k.submitter.asks_submit plan)
        have all := before.append (chosen.append (sending.append settled))
        rw [List.append_assoc, List.append_nil] at all
        exact all.after_enter _

/-- Whatever comes of it, the work on a block ends idle, and with its number taken down. -/
theorem course_processBlock {outcome : Except Failure Outcome}
    (course : (k.processBlock block).Course d (outcome, k')) :
    k' = { k with last := some block } ∧ ∃ work, d = work ++ [⟨.enter .idle, ()⟩] ∧
      (k.cycle block).run.Course work outcome := by
  obtain ⟨work, _, _, rfl, worked, resting⟩ := course_bind_iff.mp course
  obtain ⟨_, _, rfl, ended⟩ := course_request_bind_iff.mp resting
  obtain ⟨rfl, same⟩ := course_done_iff.mp ended
  cases same
  exact ⟨rfl, work, rfl, worked⟩

/-- The work on a block does not look for newer ones. -/
theorem heads_of_processBlock {outcome : Except Failure Outcome}
    (course : (k.processBlock block).Course d (outcome, k')) : d.heads = [] := by
  obtain ⟨-, work, rfl, worked⟩ := course_processBlock course
  obtain ⟨_, _, _, _, _, -, -, -, -, shows⟩ := course_cycle worked
  exact (shows.append (shows_enter .idle)).heads_eq

end Courses

section Settling

variable {read : Except Failure MarketState} {entered : List Phase} {sent : Dialogue}
  {outcome : Except Failure Outcome}

/-- The phases of the work on a block, in order. -/
def phases : List Phase := [.snapshot, .enumerate, .evaluate, .submit, .settle]

theorem Turn.entered_prefix (turn : k.Turn block read entered sent outcome) :
    entered <+: phases := by
  cases turn <;> decide

theorem Turn.of_unreadable {e : Failure} (turn : k.Turn block (.error e) entered sent outcome) :
    outcome = .ok (.skipped (.unavailable e.message)) := by
  cases turn with
  | refused sees => cases sees
  | skipped sees =>
      cases sees
      rfl
  | rested sees => cases sees
  | submitted sees => cases sees

/-- The outcome tells of every plan that is submitted, so that a silent keeper has sent nothing. -/
theorem Turn.sent_eq_nil (turn : k.Turn block read entered sent outcome)
    (unexecuted : ∀ report submission, outcome ≠ .ok (.executed report submission))
    (unfailed : ∀ report reason, outcome ≠ .ok (.failed report reason)) : sent = [] := by
  cases turn with
  | @submitted _ plan _ r sees best course =>
      cases r with
      | ok submission => exact absurd rfl (unexecuted _ submission)
      | error e => exact absurd rfl (unfailed _ e.message)
  | _ => rfl

theorem Turn.exists_refused {e : Failure} (turn : k.Turn block read entered sent (.error e)) :
    ∃ state refused, Snapshot.take state k.strategy k.tokens = .error refused ∧
      refused ≠ .staleFeed ∧ e = .market refused := by
  cases turn with
  | refused sees =>
      cases sees with
      | refused taken fatal => exact ⟨_, _, taken, fatal, rfl⟩

theorem Turn.exists_succeeded {report : PlanReport} {submission : Submission}
    (turn : k.Turn block read entered sent outcome)
    (executed : outcome = .ok (.executed report submission)) :
    ∃ plan, report = plan.report block ∧ k.submitter.Succeeded plan submission := by
  cases turn with
  | @submitted _ plan _ r sees best course =>
      cases r with
      | error e => cases executed
      | ok submission' =>
          cases executed
          exact ⟨plan, rfl, Submitter.receipts_of_submit course⟩
  | _ => cases executed

/-- What is known of a keeper that has worked on a block. -/
structure Settles (k : Keeper) (block : Nat) (d : Dialogue) (outcome : Except Failure Outcome) :
    Prop where
  /-- The market is read first of all. Without it the block is skipped; with it the block goes on by
  one of the turns, and whatever is sent is sent while a plan is submitted. -/
  exists_turn : ∃ read rest result entered sent, d = ⟨.enter .snapshot, ()⟩ :: (read ++ rest) ∧
    (k.reading block).run.Course read result ∧ sent <:+: rest ∧
    k.Turn block result entered sent outcome ∧ d.broadcasts = Dialogue.broadcasts sent ∧
    ∀ e, result = .error e → outcome = .ok (.skipped (.unavailable e.message))
  /-- The phases are entered in order, up to one of them, and the last one is idle. -/
  phases_eq : ∃ entered, entered <+: phases ∧ Trace.phases (d.map asked) = entered ++ [.idle]
  /-- Unless a plan was submitted, nothing was asked about sending, and nothing was sent. -/
  quiet : (∀ report submission, outcome ≠ .ok (.executed report submission)) →
    (∀ report reason, outcome ≠ .ok (.failed report reason)) →
    Trace.sending (d.map asked) = [] ∧ d.broadcasts = []
  /-- A failure is one of taking the snapshot, and not that of a stale feed. -/
  fatal : ∀ e, outcome = .error e → ∃ state refused,
    Snapshot.take state k.strategy k.tokens = .error refused ∧ refused ≠ .staleFeed ∧
      e = .market refused
  /-- A plan that was executed is reported for this block, and left receipts of success. -/
  executed : ∀ report submission, outcome = .ok (.executed report submission) →
    ∃ plan, report = plan.report block ∧ k.submitter.Succeeded plan submission

theorem settles_of_course (course : (k.processBlock block).Course d (outcome, k')) :
    k.Settles block d outcome := by
  obtain ⟨-, work, rfl, worked⟩ := course_processBlock course
  obtain ⟨read, rest, result, entered, sent, rfl, first, part, turn, shows⟩ := course_cycle worked
  have whole := shows.append (shows_enter .idle)
  constructor
  · refine ⟨read, rest ++ [⟨.enter .idle, ()⟩], result, entered, sent, by simp, first,
      part.trans (List.prefix_append _ _).isInfix, turn, ?_, ?_⟩
    · rw [whole.broadcasts_eq, List.append_nil, Trace.broadcasts_sending, broadcasts]
    · rintro e rfl
      exact turn.of_unreadable
  · exact ⟨entered, turn.entered_prefix, whole.phases_eq⟩
  · intro unexecuted unfailed
    obtain rfl := turn.sent_eq_nil unexecuted unfailed
    exact ⟨whole.sending_eq, whole.broadcasts_eq⟩
  · rintro e rfl
    exact turn.exists_refused
  · intro report submission executed
    exact turn.exists_succeeded executed

/-- In any surroundings a block comes to an end, with its number taken down. Whatever they did, the
keeper has settled the block: it went through its phases in order and is idle again, it has sent
nothing but a plan that it chose, and only a market that it cannot make sense of is a failure. -/
theorem processBlock_settles {σ : Type}
    (answer : (query : World.Query) → StateM σ (World.Answer query)) (w : σ) (k : Keeper)
    (block : Nat) :
    ∃ outcome, ((k.processBlock block).run answer w).1 = (outcome, { k with last := some block }) ∧
      k.Settles block ((k.processBlock block).transcript answer w) outcome := by
  have course := course_transcript answer (k.processBlock block) w
  generalize told : ((k.processBlock block).run answer w).1 = result at course
  obtain ⟨outcome, k'⟩ := result
  refine ⟨outcome, ?_, settles_of_course course⟩
  rw [(course_processBlock course).1]

/-- A keeper of gem that sends the steps of a plan one by one. -/
def stepwise : Keeper :=
  { SimulatedChain.gemKeeper with submitter := Scenario.trader .direct .standard }

/-- A world with an order that pays too much. The first receipt comes late and tells of a success, every
later one of a failure. -/
def tempting : Script :=
  { Scenario.unsteady 7 with orders := Scenario.buyAndExit.chain.ledger.book }

/-- In such a world a keeper that goes step by step sends two transactions and reports that the second
reverted; one that has the batch executor do both sends one and has executed its plan. Both have gone
through all phases. -/
theorem processBlock_settles_tempting :
    (∃ reason,
      ((stepwise.processBlock 1).run Script.answer tempting).1 =
        (.ok (.failed (Scenario.buyAndExitPlan.report 1) reason), { stepwise with last := some 1 }) ∧
      stepwise.Settles 1 ((stepwise.processBlock 1).transcript Script.answer tempting)
        (.ok (.failed (Scenario.buyAndExitPlan.report 1) reason)) ∧
      (broadcasts ((stepwise.processBlock 1).transcript Script.answer tempting)).length = 2 ∧
      Trace.phases (((stepwise.processBlock 1).transcript Script.answer tempting).map asked) =
        phases ++ [.idle]) ∧
    ∃ submission,
      ((SimulatedChain.gemKeeper.processBlock 1).run Script.answer tempting).1 =
        (.ok (.executed (Scenario.buyAndExitPlan.report 1) submission),
          { SimulatedChain.gemKeeper with last := some 1 }) ∧
      SimulatedChain.gemKeeper.Settles 1
        ((SimulatedChain.gemKeeper.processBlock 1).transcript Script.answer tempting)
        (.ok (.executed (Scenario.buyAndExitPlan.report 1) submission)) ∧
      (broadcasts
        ((SimulatedChain.gemKeeper.processBlock 1).transcript Script.answer tempting)).length = 1 ∧
      Trace.phases
        (((SimulatedChain.gemKeeper.processBlock 1).transcript Script.answer tempting).map asked) =
          phases ++ [.idle] := by
  constructor
  · obtain ⟨outcome, told, settles⟩ := processBlock_settles Script.answer tempting stepwise 1
    have reverted : ((stepwise.processBlock 1).run Script.answer tempting).1.1 =
        .ok (.failed (Scenario.buyAndExitPlan.report 1)
          (Failure.submission (.reverted 1 (Script.hashOf 2))).message) := by decide +kernel
    rw [told] at reverted
    obtain rfl := reverted
    exact ⟨_, told, settles, by decide +kernel, by decide +kernel⟩
  · obtain ⟨outcome, told, settles⟩ :=
      processBlock_settles Script.answer tempting SimulatedChain.gemKeeper 1
    have executed : ((SimulatedChain.gemKeeper.processBlock 1).run Script.answer tempting).1.1 =
        .ok (.executed (Scenario.buyAndExitPlan.report 1)
          ⟨.batched Scenario.executor, [⟨Script.hashOf 1, none, 21000, true⟩], 2⟩) := by
      decide +kernel
    rw [told] at executed
    obtain rfl := executed
    exact ⟨_, told, settles, by decide +kernel, by decide +kernel⟩

end Settling

end Keeper

end Arbitrage
