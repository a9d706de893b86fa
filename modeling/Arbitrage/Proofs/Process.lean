import Arbitrage.Process

/-!
# The courses that a process can take

A course of a process is a list of its questions, in order and each with an answer, and the result
that it comes to when it gets these answers. Nothing is assumed about the answers, so what holds of
every course holds in all surroundings: whatever surroundings do, now or depending on all they have
been asked before, the process takes one of its courses in them (`course_transcript`).

A course of two processes one after the other is a course of the first followed by one of the second
(`course_bind_iff`). What a procedure does is read off its parts along this equivalence. What it
never asks at all needs no courses: `Process.Asks` is read off its text.

If the answers to a process are worked out by a process in turn, the dialogue of the latter is put
together from its courses for the single questions (`course_run_iff`).
-/

namespace Arbitrage.Process

variable {I : Interface} {α β ε : Type}

/-- A question and the answer that it was given; a list of these is all that a process and its
surroundings have to do with each other. -/
structure Exchange (I : Interface) where
  query : I.Query
  answer : I.Answer query

/-- A process puts the questions of a dialogue, is given its answers, and comes to a result. -/
inductive Course : Process I α → List (Exchange I) → α → Prop
  | done (a : α) : Course (.done a) [] a
  | ask (query : I.Query) {next : I.Answer query → Process I α} (answer : I.Answer query)
      {d : List (Exchange I)} {a : α} (later : Course (next answer) d a) :
      Course (.ask query next) (⟨query, answer⟩ :: d) a

section Inversion

variable {d : List (Exchange I)} {a b : α}

@[simp] theorem course_done_iff : Course (.done a : Process I α) d b ↔ d = [] ∧ b = a := by
  constructor
  · intro course
    cases course
    exact ⟨rfl, rfl⟩
  · rintro ⟨rfl, rfl⟩
    exact .done b

@[simp] theorem course_ask_iff {query : I.Query} {next : I.Answer query → Process I α} :
    Course (.ask query next) d a ↔
      ∃ answer later, d = ⟨query, answer⟩ :: later ∧ Course (next answer) later a := by
  constructor
  · intro course
    cases course with
    | ask _ answer later => exact ⟨answer, _, rfl, later⟩
  · rintro ⟨answer, later, rfl, course⟩
    exact .ask query answer course

theorem course_request_iff {query : I.Query} {answer : I.Answer query} :
    Course (request I query) d answer ↔ d = [⟨query, answer⟩] := by
  constructor
  · intro course
    obtain ⟨_, _, rfl, ended⟩ := course_ask_iff.mp course
    obtain ⟨rfl, rfl⟩ := course_done_iff.mp ended
    rfl
  · rintro rfl
    exact .ask query answer (.done answer)

end Inversion

section Bind

variable {p : Process I α} {f : α → Process I β} {d d₁ d₂ : List (Exchange I)} {a : α} {b : β}

theorem course_request_bind_iff {query : I.Query} {f : I.Answer query → Process I β} :
    (request I query >>= f).Course d b ↔
      ∃ answer later, d = ⟨query, answer⟩ :: later ∧ (f answer).Course later b := course_ask_iff

theorem Course.bind (first : p.Course d₁ a) (second : (f a).Course d₂ b) :
    (p >>= f).Course (d₁ ++ d₂) b := by
  induction first with
  | done a => exact second
  | ask query answer _ ih => exact .ask query answer (ih second)

/-- A course through two processes is one through the first and then one through the second. -/
theorem course_bind_iff :
    (p >>= f).Course d b ↔ ∃ d₁ a d₂, d = d₁ ++ d₂ ∧ p.Course d₁ a ∧ (f a).Course d₂ b := by
  constructor
  · intro course
    induction p generalizing d with
    | done a => exact ⟨[], a, d, rfl, .done a, course⟩
    | ask query next ih =>
        obtain ⟨answer, later, rfl, rest⟩ := course_ask_iff.mp course
        obtain ⟨d₁, a, d₂, rfl, first, second⟩ := ih answer rest
        exact ⟨⟨query, answer⟩ :: d₁, a, d₂, rfl, .ask query answer first, second⟩
  · rintro ⟨d₁, a, d₂, rfl, first, second⟩
    exact first.bind second

/-- The answers decide where the first of two processes ends, and with what. -/
theorem Course.rest (first : p.Course d₁ a) (course : (p >>= f).Course (d₁ ++ d₂) b) :
    (f a).Course d₂ b := by
  induction first with
  | done a => exact course
  | ask query answer _ ih =>
      obtain ⟨_, _, same, rest⟩ := course_ask_iff.mp course
      cases same
      exact ih rest

end Bind

section Attempts

variable {x : ExceptT ε (Process I) α} {f : α → ExceptT ε (Process I) β}
  {d d₁ d₂ : List (Exchange I)} {a : α} {r : Except ε β}

theorem course_attempt_iff :
    (x >>= f).run.Course d r ↔ (∃ e, x.run.Course d (.error e) ∧ r = .error e) ∨
      ∃ d₁ a d₂, d = d₁ ++ d₂ ∧ x.run.Course d₁ (.ok a) ∧ (f a).run.Course d₂ r := by
  rw [ExceptT.run_bind, course_bind_iff]
  constructor
  · rintro ⟨d₁, _ | a, d₂, rfl, first, second⟩
    · obtain ⟨rfl, rfl⟩ := course_done_iff.mp second
      exact .inl ⟨_, by simpa using first, rfl⟩
    · exact .inr ⟨d₁, a, d₂, rfl, first, second⟩
  · rintro (⟨e, failed, rfl⟩ | ⟨d₁, a, d₂, rfl, first, second⟩)
    · exact ⟨d, .error e, [], by simp, failed, .done _⟩
    · exact ⟨d₁, .ok a, d₂, rfl, first, second⟩

theorem Course.attempt_rest (first : x.run.Course d₁ (.ok a))
    (course : (x >>= f).run.Course (d₁ ++ d₂) r) : (f a).run.Course d₂ r :=
  first.rest course

theorem course_attempt_map_iff {f : α → β} :
    (x >>= fun a => (pure (f a) : ExceptT ε (Process I) β)).run.Course d r ↔
      ∃ r', x.run.Course d r' ∧ r = r'.map f := by
  rw [course_attempt_iff]
  constructor
  · rintro (⟨e, failed, rfl⟩ | ⟨_, a, _, rfl, first, second⟩)
    · exact ⟨.error e, failed, rfl⟩
    · obtain ⟨rfl, rfl⟩ := course_done_iff.mp second
      exact ⟨.ok a, by simpa using first, rfl⟩
  · rintro ⟨e | a, first, rfl⟩
    · exact .inl ⟨e, first, rfl⟩
    · exact .inr ⟨d, a, [], by simp, first, .done _⟩

end Attempts

section Confinement

variable {allowed : I.Query → Prop}

/-- Whatever it is answered, a process puts none but allowed questions. -/
def Asks (allowed : I.Query → Prop) : Process I α → Prop
  | .done _ => True
  | .ask query next => allowed query ∧ ∀ answer, (next answer).Asks allowed

theorem asks_done (a : α) : (Process.done a : Process I α).Asks allowed := trivial

theorem asks_request {query : I.Query} (ok : allowed query) : (request I query).Asks allowed :=
  ⟨ok, fun _ => trivial⟩

theorem Asks.bind {p : Process I α} {f : α → Process I β} (first : p.Asks allowed)
    (second : ∀ a, (f a).Asks allowed) : (p >>= f).Asks allowed := by
  induction p with
  | done a => exact second a
  | ask query next ih => exact ⟨first.1, fun answer => ih answer (first.2 answer)⟩

theorem Asks.attempt {x : ExceptT ε (Process I) α} {f : α → ExceptT ε (Process I) β}
    (first : x.run.Asks allowed) (second : ∀ a, (f a).run.Asks allowed) :
    (x >>= f).run.Asks allowed := by
  rw [ExceptT.run_bind]
  refine first.bind ?_
  intro r
  cases r with
  | error e => exact asks_done _
  | ok a => exact second a

theorem Asks.mono {permitted : I.Query → Prop} {p : Process I α} (asks : p.Asks allowed)
    (weaker : ∀ query, allowed query → permitted query) : p.Asks permitted := by
  induction p with
  | done a => exact asks_done a
  | ask query next ih => exact ⟨weaker query asks.1, fun answer => ih answer (asks.2 answer)⟩

theorem Course.within {p : Process I α} {d : List (Exchange I)} {a : α} (course : p.Course d a)
    (asks : p.Asks allowed) : ∀ x ∈ d, allowed x.query := by
  induction course with
  | done a => exact fun x none => nomatch none
  | ask query answer _ ih => exact List.forall_mem_cons.mpr ⟨asks.1, ih (asks.2 answer)⟩

end Confinement

section Surroundings

variable {σ : Type} (answer : (query : I.Query) → StateM σ (I.Answer query))

/-- The dialogue of a process with surroundings that have a state of their own. -/
def transcript : Process I α → σ → List (Exchange I)
  | .done _, _ => []
  | .ask query next, w =>
    let (given, w) := answer query w
    ⟨query, given⟩ :: (next given).transcript w

/-- In any surroundings a process takes one of its courses, so that what holds on every course holds
there. -/
theorem course_transcript (p : Process I α) (w : σ) :
    p.Course (p.transcript answer w) (p.run answer w).1 := by
  induction p generalizing w with
  | done a => exact .done a
  | ask query next ih => exact .ask query (answer query w).1 (ih _ (answer query w).2)

theorem course_of_run {p : Process I α} {w : σ} {a : α} (told : (p.run answer w).1 = a) :
    p.Course (p.transcript answer w) a := by
  rw [← told]
  exact course_transcript answer p w

end Surroundings

section Nesting

variable {J : Interface} {answer : (query : I.Query) → Process J (I.Answer query)}
  {p : Process I α} {a : α} {d : List (Exchange J)}

/-- The answers of one dialogue are come to, one after the other, in a dialogue of another kind. -/
def Carried (answer : (query : I.Query) → Process J (I.Answer query)) :
    List (Exchange I) → List (Exchange J) → Prop
  | [], d => d = []
  | x :: e, d => ∃ d₁ d₂, d = d₁ ++ d₂ ∧ (answer x.query).Course d₁ x.answer ∧ Carried answer e d₂

/-- In surroundings that are a process themselves, a process takes one of its courses, and each of its
questions is answered by a course of theirs. -/
theorem course_run_iff :
    (p.run answer).Course d a ↔ ∃ e, p.Course e a ∧ Carried answer e d := by
  induction p generalizing d with
  | done b =>
      refine course_done_iff.trans ?_
      constructor
      · rintro ⟨rfl, rfl⟩
        exact ⟨[], .done a, rfl⟩
      · rintro ⟨e, course, carried⟩
        obtain ⟨rfl, rfl⟩ := course_done_iff.mp course
        exact ⟨carried, rfl⟩
  | ask query next ih =>
      refine course_bind_iff.trans ?_
      constructor
      · rintro ⟨d₁, given, d₂, rfl, first, second⟩
        obtain ⟨e, course, carried⟩ := (ih given).mp second
        exact ⟨⟨query, given⟩ :: e, .ask query given course, d₁, d₂, rfl, first, carried⟩
      · rintro ⟨_, course, carried⟩
        obtain ⟨given, e, rfl, later⟩ := course_ask_iff.mp course
        obtain ⟨d₁, d₂, rfl, first, rest⟩ := carried
        exact ⟨d₁, given, d₂, rfl, first, (ih given).mpr ⟨e, later, rest⟩⟩

end Nesting

end Arbitrage.Process
