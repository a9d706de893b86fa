import Arbitrage.Proofs.Chain.Persistence

/-!
# What a piece of work keeps away from

Most of the keeper's work announces no phase, none of it looks for new blocks, and what only reads
and reports leaves the keeper's own transactions alone besides. `Shows d entered sending` says of a
dialogue what it announces and what it asks about sending; it composes along the dialogue, so that the
phases and the transactions of a procedure are put together from those of its parts.
-/

namespace Arbitrage.World

open Process

/-- A question of work that stays where it is: at the same phase, and at the same block. -/
def Stays (query : Query) : Prop := query ≠ .blockNumber ∧ ∀ phase, query ≠ .enter phase

/-- A question of work that stays where it is and has nothing to do with sending. -/
def Reads (query : Query) : Prop := Stays query ∧ Trace.concernsSending query = false

theorem stays_of_reads (query : Query) (reads : Reads query) : Stays query := reads.1

theorem reads_record (event : Event) : Reads (.record event) := ⟨⟨nofun, nofun⟩, rfl⟩

theorem reads_sleep (delay : Duration) : Reads (.sleep delay) := ⟨⟨nofun, nofun⟩, rfl⟩

theorem stays_record (event : Event) : Stays (.record event) := (reads_record event).1

section Parts

variable {allowed : Query → Prop} {α : Type} {patience : Patience} {activity : String}
  {work : Attempt α}

/-- Trying again adds reports and pauses to what the work itself asks. -/
theorem asks_persist (pausing : ∀ query, Reads query → allowed query)
    (asks : work.run.Asks allowed) : (persist patience activity work).run.Asks allowed := by
  have from_here : ∀ left retry,
      (persistFrom patience activity work left retry).run.Asks allowed := by
    intro left
    induction left with
    | zero => exact fun _ => asks
    | succ left ih =>
        intro retry
        refine asks.bind ?_
        intro r
        cases r with
        | ok a => exact asks_done _
        | error e =>
            dsimp only
            split
            · refine (asks_request (pausing _ (reads_record _))).bind fun _ => ?_
              exact (asks_request (pausing _ (reads_sleep _))).bind fun _ => ih _
            · exact asks_done _
  exact from_here _ _

theorem asks_confirm (call : Call) : (confirm patience call).run.Asks Stays := by
  refine Asks.attempt (asks_request ⟨nofun, nofun⟩) fun hash => ?_
  exact asks_persist stays_of_reads (asks_request ⟨nofun, nofun⟩)

theorem asks_record {event : Event} {x : Unit → Attempt α} (told : allowed (.record event))
    (rest : (x ()).run.Asks allowed) :
    ((liftM (World.record event) : Attempt Unit) >>= x).run.Asks allowed := ⟨told, fun _ => rest⟩

theorem asks_market (block : Nat) (account base : Address) :
    (World.market block account base).run.Asks Reads := by
  refine Asks.attempt (asks_request ⟨⟨nofun, nofun⟩, rfl⟩) fun vault => ?_
  refine Asks.attempt (asks_request ⟨⟨nofun, nofun⟩, rfl⟩) fun orders => ?_
  exact Asks.attempt (asks_request ⟨⟨nofun, nofun⟩, rfl⟩) fun balance => asks_done _

end Parts

namespace Trace

variable {t : Trace}

theorem phases_of_stays (stays : ∀ query ∈ t, Stays query) : t.phases = [] := by
  rw [phases, List.filterMap_eq_nil_iff]
  intro query listed
  cases query with
  | enter phase => exact absurd rfl ((stays _ listed).2 phase)
  | _ => rfl

theorem broadcasts_sending (t : Trace) : t.sending.broadcasts = t.broadcasts := by
  rw [sending, broadcasts, List.filterMap_filter, broadcasts]
  congr 1
  funext query
  cases query <;> rfl

end Trace

namespace Dialogue

variable {d d₁ d₂ : Dialogue} {entered entered₁ entered₂ : List Phase}
  {sending sending₁ sending₂ : Trace} {α : Type} {p : Work α} {a : α}

/-- What a dialogue announces, and what it asks about sending. It is one of work on a block, in which
no newer block is looked for. -/
structure Shows (d : Dialogue) (entered : List Phase) (sending : Trace) : Prop where
  phases_eq : Trace.phases (d.map asked) = entered
  sending_eq : Trace.sending (d.map asked) = sending
  heads_eq : d.heads = []

theorem Shows.nil : Shows [] [] [] := ⟨rfl, rfl, rfl⟩

theorem Shows.append (first : Shows d₁ entered₁ sending₁) (second : Shows d₂ entered₂ sending₂) :
    Shows (d₁ ++ d₂) (entered₁ ++ entered₂) (sending₁ ++ sending₂) := by
  constructor
  · rw [← first.phases_eq, ← second.phases_eq, List.map_append, Trace.phases, List.filterMap_append]
    rfl
  · rw [← first.sending_eq, ← second.sending_eq, List.map_append, Trace.sending,
      List.filter_append]
    rfl
  · rw [heads_append, first.heads_eq, second.heads_eq]
    rfl

theorem shows_enter (phase : Phase) : Shows [⟨.enter phase, ()⟩] [phase] [] :=
  ⟨rfl, rfl, rfl⟩

theorem shows_record (event : Event) : Shows [⟨.record event, ()⟩] [] [] :=
  ⟨rfl, rfl, rfl⟩

theorem Shows.after_enter (shows : Shows d entered sending) (phase : Phase) :
    Shows (⟨.enter phase, ()⟩ :: d) (phase :: entered) sending := (shows_enter phase).append shows

theorem Shows.after_record (shows : Shows d entered sending) (event : Event) :
    Shows (⟨.record event, ()⟩ :: d) entered sending := (shows_record event).append shows

theorem Shows.broadcasts_eq (shows : Shows d entered sending) :
    d.broadcasts = sending.broadcasts := by
  rw [broadcasts, ← Trace.broadcasts_sending, shows.sending_eq]

theorem heads_of_stays (stays : ∀ x ∈ d, Stays x.query) : d.heads = [] := by
  rw [heads, List.filterMap_eq_nil_iff]
  rintro ⟨query, answer⟩ listed
  cases query with
  | blockNumber => exact absurd rfl (stays _ listed).1
  | _ => rfl

/-- Work that announces no phase shows what it asks about sending. -/
theorem shows_of_stays (course : p.Course d a) (asks : p.Asks Stays) :
    Shows d [] (Trace.sending (d.map asked)) := by
  have stays := course.within asks
  exact ⟨Trace.phases_of_stays (List.forall_mem_map.mpr stays), rfl, heads_of_stays stays⟩

theorem shows_of_reads (course : p.Course d a) (asks : p.Asks Reads) : Shows d [] [] := by
  have quiet : Trace.sending (d.map asked) = [] := by
    rw [Trace.sending, List.filter_eq_nil_iff]
    refine List.forall_mem_map.mpr fun x listed => ?_
    rw [asked, (course.within asks x listed).2]
    exact Bool.false_ne_true
  rw [← quiet]
  exact shows_of_stays course (asks.mono stays_of_reads)

end Dialogue

end Arbitrage.World
