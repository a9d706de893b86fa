import Arbitrage.Node.Client
import Arbitrage.Proofs.Process

/-!
# Reading a chain that moves on

A node answers every request in the block that is newest when the request arrives, so work that makes
several requests may see several blocks. What the node answers to each request in each block is a
history. `Sees h window p a` says that work may come to a result while its requests are answered in
blocks of a window, one by one and in any order. It splits along the work (`sees_bind_iff`), down to
the single requests, each of which is answered in some block of the window.

If nothing of what a chain answers changes within the window, work sees what the chain shows in any
one block of it (`seenIn_of_sees`), as long as it does not matter to the work when its requests are
answered: that it neither looks at the clock nor has several reads under way.
-/

namespace Arbitrage.Node

open Process

variable {α β : Type}

/-- What a node answers to each request, as long as nothing happens on the chain. -/
abbrev Replies := Request → Except RpcError Json

/-- What a node answers in each block; what becomes of the chain in the meantime is not part of
it. -/
abbrev History := Nat → Replies

/-- Answer every request in the same way, whenever it comes; reads under way together end in the order
in which they were started. -/
def standing (replies : Replies) : (query : Query) → Id (Answer query)
  | .request r => replies r
  | .now => (⟨0⟩ : Duration)
  | .ended others => Fin.mk 0 others.succ_pos
  | .sleep _ | .record _ => ()

/-- What work comes to while nothing changes, all of its requests being answered in one block. -/
def seenIn (replies : Replies) (p : Process Node α) : α := (p.run (standing replies)).run

/-- An answer was given in some block of a window. Which read ends first is for the node to decide. -/
def Given (h : History) (window : Nat → Prop) : Exchange Node → Prop
  | ⟨.request r, answer⟩ => ∃ block, window block ∧ answer = h block r
  | ⟨.now, _⟩ | ⟨.ended _, _⟩ | ⟨.sleep _, _⟩ | ⟨.record _, _⟩ => True

/-- While its requests are answered in blocks of a window, work may come to a result. -/
def Sees (h : History) (window : Nat → Prop) (p : Process Node α) (a : α) : Prop :=
  ∃ d, p.Course d a ∧ ∀ x ∈ d, Given h window x

/-- Work that may fail comes to a value in some block of a window. -/
def SeenWithin (h : History) (window : Nat → Prop) (x : Attempt α) (a : α) : Prop :=
  ∃ block, window block ∧ seenIn (h block) x.run = .ok a

/-- A question whose answer does not depend on how long things take. -/
def Timeless : Query → Prop
  | .now | .ended _ => False
  | .request _ | .sleep _ | .record _ => True

variable {h : History} {window : Nat → Prop} {replies : Replies}

section Parts

variable {p : Process Node α} {f : α → Process Node β} {a b : α}

@[simp] theorem sees_done_iff : Sees h window (.done a : Process Node α) b ↔ b = a := by
  constructor
  · rintro ⟨d, course, -⟩
    exact (course_done_iff.mp course).2
  · rintro rfl
    exact ⟨[], .done b, List.forall_mem_nil _⟩

theorem sees_bind_iff {b : β} :
    Sees h window (p >>= f) b ↔ ∃ a, Sees h window p a ∧ Sees h window (f a) b := by
  constructor
  · rintro ⟨d, course, given⟩
    obtain ⟨d₁, a, d₂, rfl, first, second⟩ := course_bind_iff.mp course
    obtain ⟨given₁, given₂⟩ := List.forall_mem_append.mp given
    exact ⟨a, ⟨d₁, first, given₁⟩, ⟨d₂, second, given₂⟩⟩
  · rintro ⟨a, ⟨d₁, first, given₁⟩, ⟨d₂, second, given₂⟩⟩
    exact ⟨d₁ ++ d₂, first.bind second, List.forall_mem_append.mpr ⟨given₁, given₂⟩⟩

theorem sees_request_iff {r : Request} {answer : Except RpcError Json} :
    Sees h window (request r) answer ↔ ∃ block, window block ∧ answer = h block r := by
  constructor
  · rintro ⟨d, course, given⟩
    obtain rfl := course_request_iff.mp course
    exact given _ (List.mem_singleton.mpr rfl)
  · rintro ⟨block, within, rfl⟩
    refine ⟨_, course_request_iff.mpr rfl, ?_⟩
    intro x listed
    obtain rfl := List.mem_singleton.mp listed
    exact ⟨block, within, rfl⟩

theorem sees_ended {others : Nat} (i : Fin (others + 1)) : Sees h window (ended others) i := by
  refine ⟨_, course_request_iff.mpr rfl, ?_⟩
  intro x listed
  obtain rfl := List.mem_singleton.mp listed
  trivial

theorem sees_record (event : Event) : Sees h window (record event) () := by
  refine ⟨_, course_request_iff.mpr rfl, ?_⟩
  intro x listed
  obtain rfl := List.mem_singleton.mp listed
  trivial

end Parts

section Attempts

variable {x : Attempt α} {f : α → Attempt β} {a b : α}

@[simp] theorem sees_pure_iff : Sees h window (pure a : Attempt α).run (.ok b) ↔ b = a := by
  refine Iff.trans sees_done_iff ?_
  simp

theorem sees_throw {e : Failure} : ¬ Sees h window (throw e : Attempt α).run (.ok b) := by
  intro sees
  cases sees_done_iff.mp sees

theorem sees_report (event : Event) :
    Sees h window (liftM (record event) : Attempt Unit).run (.ok ()) :=
  sees_bind_iff.mpr ⟨(), sees_record event, sees_done_iff.mpr rfl⟩

theorem sees_attempt_iff {b : β} :
    Sees h window (x >>= f).run (.ok b) ↔
      ∃ a, Sees h window x.run (.ok a) ∧ Sees h window (f a).run (.ok b) := by
  rw [ExceptT.run_bind, sees_bind_iff]
  constructor
  · rintro ⟨_ | a, first, second⟩
    · cases sees_done_iff.mp second
    · exact ⟨a, first, second⟩
  · rintro ⟨a, first, second⟩
    exact ⟨.ok a, first, second⟩

end Attempts

section Standing

variable {p : Process Node α} {a : α}

/-- What a chain shows in one block of a window may be seen within the window. -/
theorem sees_seenIn {block : Nat} (within : window block) (p : Process Node α) :
    Sees h window p (seenIn (h block) p) := by
  induction p with
  | done a => exact sees_done_iff.mpr rfl
  | ask query next ih =>
      obtain ⟨d, course, given⟩ := ih (standing (h block) query)
      refine ⟨_, .ask query _ course, List.forall_mem_cons.mpr ⟨?_, given⟩⟩
      cases query with
      | request r => exact ⟨block, within, rfl⟩
      | now | ended | sleep | record => trivial

theorem sees_of_seenIn {block : Nat} (within : window block) (shown : seenIn (h block) p = a) :
    Sees h window p a := by
  rw [← shown]
  exact sees_seenIn within p

/-- As long as a chain answers alike throughout a window, what is seen is what it shows. -/
theorem seenIn_of_sees (asks : p.Asks Timeless) (quiet : ∀ block, window block → h block = replies)
    (sees : Sees h window p a) : seenIn replies p = a := by
  obtain ⟨d, course, given⟩ := sees
  induction course with
  | done a => rfl
  | ask query answer later ih =>
      obtain ⟨first, rest⟩ := List.forall_mem_cons.mp given
      -- Only the answers to requests depend on blocks; the clock and the reads that end could tell
      -- anything.
      have same : answer = standing replies query := by
        cases query with
        | request r =>
            obtain ⟨block, within, rfl⟩ := first
            rw [quiet block within]
            rfl
        | now | ended => exact asks.1.elim
        | sleep | record => rfl
      rw [← ih (asks.2 answer) rest, same]
      rfl

theorem seenIn_bind {β : Type} (p : Process Node α) (f : α → Process Node β) :
    seenIn replies (p >>= f) = seenIn replies (f (seenIn replies p)) :=
  @Process.run_bind Node α β Id _ (standing replies) _ p f

/-- While a chain answers in one way, work goes on with what it has seen so far. -/
theorem seenIn_attempt {β : Type} {x : Attempt α} {f : α → Attempt β} {a : α}
    (seen : seenIn replies x.run = .ok a) :
    seenIn replies (x >>= f).run = seenIn replies (f a).run := by
  rw [ExceptT.run_bind, seenIn_bind, seen]

end Standing

end Arbitrage.Node

namespace Arbitrage.Client

open Node Process

variable {α : Type} {c : Client} {h : History} {window : Nat → Prop}

section Views

variable {target : Address} {data : Bytes} {read : Bytes → Option α} {a : α}

/-- What is made of a node's answer to a call of a contract. -/
def viewed (c : Client) (read : Bytes → Option α) : Except RpcError Json → Except Failure α
  | .error e => .error (.contract (.rpc e))
  | .ok json =>
    match c.reader.bytes json with
    | none => .error (.contract (.rpc (.malformed "byte string expected")))
    | some returned =>
      match read returned with
      | some a => .ok a
      | none => .error (.contract (.undecodable "buffer overrun while deserializing"))

theorem run_view (c : Client) (target : Address) (data : Bytes) (read : Bytes → Option α) :
    (c.view target data read).run =
      Node.request (.call target data) >>= fun answer => pure (c.viewed read answer) := by
  refine congrArg (Process.bind (Node.request (.call target data))) (funext fun answer => ?_)
  cases answer with
  | error e => rfl
  | ok json =>
      dsimp only [viewed]
      cases c.reader.bytes json with
      | none => rfl
      | some returned =>
          dsimp only
          cases read returned <;> rfl

theorem sees_view_iff : Sees h window (c.view target data read).run (.ok a) ↔
    SeenWithin h window (c.view target data read) a := by
  rw [run_view, sees_bind_iff]
  constructor
  · rintro ⟨answer, asked, told⟩
    obtain ⟨block, within, rfl⟩ := sees_request_iff.mp asked
    refine ⟨block, within, ?_⟩
    rw [run_view]
    exact (sees_done_iff.mp told).symm
  · rintro ⟨block, within, shown⟩
    rw [run_view] at shown
    exact ⟨h block (.call target data), sees_request_iff.mpr ⟨block, within, rfl⟩,
      sees_done_iff.mpr shown.symm⟩

theorem asks_view : (c.view target data read).run.Asks Timeless := by
  rw [run_view]
  exact ⟨trivial, fun answer => asks_done _⟩

theorem sees_amount_iff {s : Scale} {selector : Bytes} {a : Amount s} :
    Sees h window (c.amount s target selector).run (.ok a) ↔
      SeenWithin h window (c.amount s target selector) a := sees_view_iff

theorem sees_order_iff {id : Word} {a : Order} :
    Sees h window (c.order id).run (.ok a) ↔ SeenWithin h window (c.order id) a := sees_view_iff

theorem sees_balance_iff {token owner : Address} {a : Wad} :
    Sees h window (c.balance token owner).run (.ok a) ↔
      SeenWithin h window (c.balance token owner) a := sees_view_iff

theorem sees_address_iff {selector : Bytes} {a : Address} :
    Sees h window (c.address target selector).run (.ok a) ↔
      SeenWithin h window (c.address target selector) a := sees_view_iff

theorem sees_word_iff {selector : Bytes} {a : Word} :
    Sees h window (c.word target selector).run (.ok a) ↔
      SeenWithin h window (c.word target selector) a := sees_view_iff

end Views

end Arbitrage.Client
