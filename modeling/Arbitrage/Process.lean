/-!
# Processes that ask and are answered

A process is a computation that may put questions to its surroundings and goes on with whatever
answer it gets. Nothing is assumed about the answers: a law of a process holds whatever its
surroundings do, and `Process.run` shows what happens in given ones.
-/

namespace Arbitrage

/-- What may be asked, and the kind of answer that each question has. The answers are not part of
it: they are up to the surroundings. -/
structure Interface where
  Query : Type
  Answer : Query → Type

/-- A computation that puts the questions of an interface and ends with a result. It may ask without
end only in the sense that no bound holds for all answers: on every course it comes to a result. -/
inductive Process (I : Interface) (α : Type) : Type
  | done (result : α)
  | ask (query : I.Query) (next : I.Answer query → Process I α)

namespace Process

variable {I J : Interface} {α β : Type}

/-- Go on with the result of a process, once it has put all of its questions. -/
def bind : Process I α → (α → Process I β) → Process I β
  | .done a, f => f a
  | .ask query next, f => .ask query fun answer => (next answer).bind f

instance : Monad (Process I) where
  pure := .done
  bind := bind

@[simp] theorem pure_eq_done (a : α) : (pure a : Process I α) = .done a := rfl

@[simp] theorem done_bind (a : α) (f : α → Process I β) : (.done a : Process I α) >>= f = f a := rfl

@[simp] theorem ask_bind (query : I.Query) (next : I.Answer query → Process I α)
    (f : α → Process I β) : Process.ask query next >>= f = .ask query fun a => next a >>= f := rfl

theorem bind_done (p : Process I α) : p.bind .done = p := by
  induction p with
  | done a => rfl
  | ask query next ih => exact congrArg (Process.ask query) (funext ih)

theorem bind_bind {γ : Type} (p : Process I α) (f : α → Process I β) (g : β → Process I γ) :
    (p.bind f).bind g = p.bind fun a => (f a).bind g := by
  induction p with
  | done a => rfl
  | ask query next ih => exact congrArg (Process.ask query) (funext ih)

instance : LawfulMonad (Process I) := LawfulMonad.mk' _ bind_done (fun _ _ => rfl) bind_bind

def request (I : Interface) (query : I.Query) : Process I (I.Answer query) := .ask query .done

/-- Run a process in surroundings that answer its questions, in a monad that holds their state. -/
def run {m : Type → Type} [Monad m] (answer : (query : I.Query) → m (I.Answer query)) :
    Process I α → m α
  | .done a => pure a
  | .ask query next => do (next (← answer query)).run answer

variable {m : Type → Type} [Monad m] (answer : (query : I.Query) → m (I.Answer query))

@[simp] theorem run_done (a : α) : (Process.done a : Process I α).run answer = pure a := rfl

@[simp] theorem run_ask (query : I.Query) (next : I.Answer query → Process I α) :
    (Process.ask query next).run answer = answer query >>= fun a => (next a).run answer := rfl

theorem run_bind [LawfulMonad m] (p : Process I α) (f : α → Process I β) :
    (p >>= f).run answer = p.run answer >>= fun a => (f a).run answer := by
  induction p with
  | done a => simp
  | ask query next ih => simp [ih]

/-- Take note of every question, the newest first, and answer it as the surroundings do. -/
def noting (query : I.Query) : StateT (List I.Query) m (I.Answer query) := do
  modify (query :: ·)
  answer query

/-- Run a process in surroundings that answer its questions, and list the questions in order beside
the result. -/
def trace (p : Process I α) : m (α × List I.Query) := do
  let (a, asked) ← (p.run (noting answer)).run []
  return (a, asked.reverse)

end Process

end Arbitrage
