import Arbitrage.Node.Client
import Arbitrage.Node.Trace
import Arbitrage.Proofs.Node.Clock

/-!
# Waiting for a receipt

A wait for a receipt asks for it once a second. It ends with the first reply that tells anything, a
receipt or a failure (`heard?`), or as soon as the clock shows that a minute is over when a reply has
told nothing. How long the node takes to reply is its own affair, so it is the clock that ends a wait;
but as every pause lasts a second, there are no more than 61 requests before it does, and a wait never
ends because it has run out of requests (`ends_of_course`).

`course_receipt_iff` lists all the ways in which a wait can go, and `Awaited` says what they have in
common: which reply decides, and that the receipt is missing only after a minute without it.
-/

namespace Arbitrage.Client

open Node Process

/-- What is read from a reply to a request: a value, or the failure that the reply comes to. -/
def understood {α : Type} (r : Request) (read : Json → Option α) :
    Except RpcError Json → Except Failure α
  | .error e => .error (.rpc e)
  | .ok json =>
    match read json with
    | some a => .ok a
    | none => .error (.rpc (.malformed ("unexpected answer to " ++ r.method)))

section Understanding

variable {α : Type} {request : Request} {read : Json → Option α} {reply : Except RpcError Json}

theorem run_ask (request : Request) (read : Json → Option α) :
    (ask request read).run =
      Node.request request >>= fun reply => pure (understood request read reply) := by
  refine congrArg (Process.bind (Node.request request)) (funext fun reply => ?_)
  cases reply with
  | error e => rfl
  | ok json =>
      dsimp only [understood]
      cases read json <;> rfl

theorem understood_eq_ok_iff {a : α} :
    understood request read reply = .ok a ↔ ∃ json, reply = .ok json ∧ read json = some a := by
  cases reply with
  | error e => simp [understood]
  | ok json =>
      cases told : read json with
      | none => simp [understood, told]
      | some b => simp [understood, told]

/-- What goes wrong with a request is no failure of the chain. -/
theorem understood_ne_chain {e : ChainError} : understood request read reply ≠ .error (.chain e) := by
  cases reply with
  | error e => nofun
  | ok json =>
      dsimp only [understood]
      split <;> nofun

end Understanding

/-- What a client makes of a reply to a request for a receipt, unless it is that there is none yet. -/
def heard? (c : Client) (hash : Word) : Except RpcError Json → Option (Except Failure Receipt)
  | .ok .null => none
  | reply =>
    some (understood (.receipt hash) (fun json => (c.reader.receipt json).map (keep hash)) reply)

variable {c : Client}

section Hearing

variable {hash : Word} {reply : Except RpcError Json} {receipt : Receipt}

theorem heard?_eq_none_iff : c.heard? hash reply = none ↔ reply = .ok .null := by
  rw [heard?.eq_def]
  split
  · exact ⟨fun _ => rfl, fun _ => rfl⟩
  · next told => exact ⟨nofun, fun silent => absurd silent told⟩

theorem heard?_eq_ok_iff : c.heard? hash reply = some (.ok receipt) ↔
    ∃ json mined, reply = .ok json ∧ json ≠ .null ∧ c.reader.receipt json = some mined ∧
      receipt = keep hash mined := by
  rw [heard?.eq_def]
  split
  · constructor
    · nofun
    · rintro ⟨json, mined, same, there, -⟩
      cases same
      exact absurd rfl there
  · next told =>
      rw [Option.some_inj, understood_eq_ok_iff]
      constructor
      · rintro ⟨json, rfl, kept⟩
        obtain ⟨mined, read, rfl⟩ := Option.map_eq_some_iff.mp kept
        refine ⟨json, mined, rfl, ?_, read, rfl⟩
        rintro rfl
        exact told rfl
      · rintro ⟨json, mined, rfl, -, read, rfl⟩
        exact ⟨json, rfl, Option.map_eq_some_iff.mpr ⟨mined, read, rfl⟩⟩

theorem heard?_ne_missing {text : String} :
    c.heard? hash reply ≠ some (.error (.chain (.receiptNotFound text))) := by
  rw [heard?.eq_def]
  split
  · nofun
  · exact fun told => understood_ne_chain (Option.some.inj told)

end Hearing

/-- The failure of a wait that was in vain. It is transient, so that the wait may be made again. -/
def missing (hash : Word) : Failure := .chain (.receiptNotFound hash.hex)

theorem run_findReceipt (c : Client) (hash : Word) :
    (c.findReceipt hash).run = Node.request (.receipt hash) >>= fun reply =>
      pure (match c.heard? hash reply with
        | none => .ok none
        | some r => r.map some) := by
  rw [findReceipt, run_ask]
  refine congrArg (Process.bind (Node.request (.receipt hash))) (funext fun reply => congrArg pure ?_)
  cases reply with
  | error e => rfl
  | ok json =>
      cases json with
      | null => rfl
      | bool | number | string | array | object =>
          dsimp only [heard?, understood]
          cases c.reader.receipt _ <;> rfl

theorem run_awaitReceipt_succ (c : Client) (hash : Word) (deadline : Duration) (polls : Nat) :
    (c.awaitReceipt hash deadline (polls + 1)).run =
      Node.request (.receipt hash) >>= fun reply =>
        match c.heard? hash reply with
        | some r => pure r
        | none => Node.now >>= fun now =>
          if deadline.nanos ≤ now.nanos then pure (.error (missing hash))
          else Node.sleep receiptPause >>= fun _ => (c.awaitReceipt hash deadline polls).run := by
  rw [awaitReceipt, ExceptT.run_bind, run_findReceipt, bind_assoc]
  refine congrArg (Process.bind (Node.request (.receipt hash))) (funext fun reply => ?_)
  rw [pure_bind]
  cases c.heard? hash reply with
  | some r => cases r <;> rfl
  | none =>
      refine congrArg (Process.bind Node.now) (funext fun now => ?_)
      dsimp only [ExceptT.bindCont]
      by_cases reached : deadline.nanos ≤ now.nanos
      · rw [if_pos reached, if_pos reached]
        rfl
      · rw [if_neg reached, if_neg reached]
        rfl

/-- The end of a wait: a reply that tells something, or one that tells nothing and a clock that shows
the deadline. -/
inductive Ends (c : Client) (hash : Word) (deadline : Duration) : Node.Dialogue → Except Failure Receipt → Prop
  | heard {reply : Except RpcError Json} {r : Except Failure Receipt}
      (told : c.heard? hash reply = some r) :
      c.Ends hash deadline [⟨.request (.receipt hash), reply⟩] r
  | late {reply : Except RpcError Json} {now : Duration} (untold : c.heard? hash reply = none)
      (reached : deadline.nanos ≤ now.nanos) :
      c.Ends hash deadline [⟨.request (.receipt hash), reply⟩, ⟨.now, now⟩] (.error (missing hash))

/-- A reply that tells nothing before the deadline, and the pause behind it. -/
def idle (hash : Word) (x : Except RpcError Json × Duration) : Node.Dialogue :=
  [⟨.request (.receipt hash), x.1⟩, ⟨.now, x.2⟩, ⟨.sleep receiptPause, ()⟩]

section Waits

variable {hash : Word} {deadline : Duration} {d : Node.Dialogue} {r : Except Failure Receipt}

theorem course_awaitReceipt_succ_iff {polls : Nat} :
    (c.awaitReceipt hash deadline (polls + 1)).run.Course d r ↔ c.Ends hash deadline d r ∨
      ∃ x later, c.heard? hash x.1 = none ∧ x.2.nanos < deadline.nanos ∧ d = idle hash x ++ later ∧
        (c.awaitReceipt hash deadline polls).run.Course later r := by
  rw [run_awaitReceipt_succ]
  refine course_request_bind_iff.trans ?_
  constructor
  · rintro ⟨reply, rest, rfl, course⟩
    cases told : c.heard? hash reply with
    | some r' =>
        rw [told] at course
        obtain ⟨rfl, rfl⟩ := course_done_iff.mp course
        exact .inl (.heard told)
    | none =>
        rw [told] at course
        obtain ⟨now, rest, rfl, looked⟩ := course_request_bind_iff.mp course
        split at looked
        · next reached =>
            obtain ⟨rfl, rfl⟩ := course_done_iff.mp looked
            exact .inl (.late told reached)
        · next early =>
            obtain ⟨_, later, rfl, paused⟩ := course_request_bind_iff.mp looked
            exact .inr ⟨(reply, now), later, told, Nat.lt_of_not_le early, rfl, paused⟩
  · rintro (ends | ⟨⟨reply, now⟩, later, told, early, rfl, course⟩)
    · cases ends with
      | @heard reply _ told =>
          refine ⟨reply, [], rfl, ?_⟩
          rw [told]
          exact .done r
      | @late reply now untold reached =>
          refine ⟨reply, _, rfl, ?_⟩
          rw [untold]
          refine course_request_bind_iff.mpr ⟨now, [], rfl, ?_⟩
          rw [if_pos reached]
          exact .done _
    · refine ⟨reply, _, rfl, ?_⟩
      rw [told]
      refine course_request_bind_iff.mpr ⟨now, _, rfl, ?_⟩
      rw [if_neg (Nat.not_le_of_lt early)]
      exact course_request_bind_iff.mpr ⟨(), later, rfl, course⟩

/-- With enough requests for its deadline, a wait ends by what it hears or by the clock, and never for
want of requests: every pause takes its time. -/
theorem ends_of_course {polls time : Nat} (since : Since time d)
    (enough : deadline.nanos ≤ time + polls * receiptPause.nanos)
    (course : (c.awaitReceipt hash deadline (polls + 1)).run.Course d r) :
    ∃ idles last, d = List.flatMap (idle hash) idles ++ last ∧ idles.length ≤ polls ∧
      (∀ x ∈ idles, c.heard? hash x.1 = none ∧ x.2.nanos < deadline.nanos) ∧
      c.Ends hash deadline last r := by
  induction polls generalizing time d with
  | zero =>
      -- The clock cannot show less than the deadline at the last request.
      obtain ends | ⟨x, later, -, early, rfl, -⟩ := course_awaitReceipt_succ_iff.mp course
      · exact ⟨[], d, rfl, Nat.le_refl 0, List.forall_mem_nil _, ends⟩
      · have reading : time ≤ x.2.nanos := since.1
        omega
  | succ polls ih =>
      obtain ends | ⟨x, later, untold, early, rfl, rest⟩ := course_awaitReceipt_succ_iff.mp course
      · exact ⟨[], d, rfl, Nat.zero_le _, List.forall_mem_nil _, ends⟩
      · have reading : time ≤ x.2.nanos := since.1
        have after : Since (x.2.nanos + receiptPause.nanos) later := since.2
        rw [Nat.succ_mul] at enough
        obtain ⟨idles, last, rfl, few, before, ends⟩ := ih after (by omega) rest
        exact ⟨x :: idles, last, (List.append_assoc ..).symm, Nat.succ_le_succ few,
          List.forall_mem_cons.mpr ⟨⟨untold, early⟩, before⟩, ends⟩

theorem course_of_ends {polls : Nat} {idles : List (Except RpcError Json × Duration)}
    (few : idles.length ≤ polls)
    (before : ∀ x ∈ idles, c.heard? hash x.1 = none ∧ x.2.nanos < deadline.nanos)
    (ends : c.Ends hash deadline d r) :
    (c.awaitReceipt hash deadline (polls + 1)).run.Course (idles.flatMap (idle hash) ++ d) r := by
  induction idles generalizing polls with
  | nil => exact course_awaitReceipt_succ_iff.mpr (.inl ends)
  | cons x idles ih =>
      obtain ⟨⟨untold, early⟩, others⟩ := List.forall_mem_cons.mp before
      cases polls with
      | zero => cases few
      | succ polls =>
          refine course_awaitReceipt_succ_iff.mpr (.inr ⟨x, _, untold, early, ?_, ih ?_ others⟩)
          · exact List.append_assoc ..
          · exact Nat.le_of_succ_le_succ few

/-- A wait of a minute from some moment on: at most sixty replies that tell nothing before the minute
is over, each with a pause behind it, and then the end. -/
structure Minute (c : Client) (hash : Word) (start : Duration) (idles : List (Except RpcError Json × Duration))
    (last : Node.Dialogue) (r : Except Failure Receipt) : Prop where
  few : idles.length ≤ 60
  before : ∀ x ∈ idles, c.heard? hash x.1 = none ∧ x.2.nanos < start.nanos + receiptTimeout.nanos
  ends : c.Ends hash ⟨start.nanos + receiptTimeout.nanos⟩ last r

/-- By a clock that never runs backwards, these are the ways in which a wait can go. -/
theorem course_receipt_iff (timely : Timely d) : (c.receipt hash).run.Course d r ↔
    ∃ start idles last, d = ⟨.now, start⟩ :: (idles.flatMap (idle hash) ++ last) ∧
      c.Minute hash start idles last r := by
  refine course_request_bind_iff.trans ?_
  constructor
  · rintro ⟨start, later, rfl, course⟩
    have enough : start.nanos + receiptTimeout.nanos ≤ start.nanos + 60 * receiptPause.nanos :=
      Nat.le_refl _
    obtain ⟨idles, last, rfl, few, before, ends⟩ := ends_of_course timely.2 enough course
    exact ⟨start, idles, last, rfl, few, before, ends⟩
  · rintro ⟨start, idles, last, rfl, minute⟩
    exact ⟨start, _, rfl, course_of_ends minute.few minute.before minute.ends⟩

end Waits

section Replies

variable {hash : Word} {d d₁ d₂ : Node.Dialogue} {r : Except Failure Receipt}

def asked (x : Exchange Node) : Node.Query := x.query

def requests (d : Node.Dialogue) : List Request := Trace.requests (d.map asked)

def replies (d : Node.Dialogue) : List (Except RpcError Json) :=
  d.filterMap fun
    | ⟨.request (.receipt _), reply⟩ => some reply
    | _ => none

theorem requests_append : requests (d₁ ++ d₂) = requests d₁ ++ requests d₂ := by
  rw [requests, List.map_append, Trace.requests, List.filterMap_append]
  rfl

theorem replies_append : replies (d₁ ++ d₂) = replies d₁ ++ replies d₂ := List.filterMap_append

theorem mem_requests_iff {request : Request} :
    request ∈ requests d ↔ ∃ reply, ⟨.request request, reply⟩ ∈ d := by
  rw [requests, Trace.requests, List.mem_filterMap]
  constructor
  · rintro ⟨_, listed, same⟩
    obtain ⟨⟨query, reply⟩, among, rfl⟩ := List.mem_map.mp listed
    cases query with
    | request request' =>
        obtain rfl := Option.some.inj same
        exact ⟨reply, among⟩
    | now | ended | sleep | record => cases same
  · rintro ⟨reply, listed⟩
    exact ⟨.request request, List.mem_map.mpr ⟨_, listed, rfl⟩, rfl⟩

theorem mem_replies {reply : Except RpcError Json}
    (listed : ⟨.request (.receipt hash), reply⟩ ∈ d) : reply ∈ replies d :=
  List.mem_filterMap.mpr ⟨_, listed, rfl⟩

theorem requests_idles (hash : Word) (idles : List (Except RpcError Json × Duration)) :
    requests (idles.flatMap (idle hash)) = List.replicate idles.length (.receipt hash) := by
  induction idles with
  | nil => rfl
  | cons x idles ih =>
      rw [List.flatMap_cons, requests_append, ih]
      rfl

theorem replies_idles (hash : Word) (idles : List (Except RpcError Json × Duration)) :
    replies (idles.flatMap (idle hash)) = idles.map Prod.fst := by
  induction idles with
  | nil => rfl
  | cons x idles ih =>
      rw [List.flatMap_cons, replies_append, ih]
      rfl

/-- What can be said of a wait for a receipt and its result. -/
structure Awaited (c : Client) (hash : Word) (d : Node.Dialogue) (r : Except Failure Receipt) : Prop where
  asked : requests d = List.replicate (replies d).length (.receipt hash)
  /-- It is asked for no more than 61 times. No reply but the last tells anything, and the last one
  tells the result, unless it tells nothing either. -/
  heard : ∃ before last, replies d = before ++ [last] ∧ (before ++ [last]).length ≤ 61 ∧
    (∀ reply ∈ before, c.heard? hash reply = none) ∧
    (c.heard? hash last).getD (.error (missing hash)) = r
  /-- The receipt is missing only if all replies tell nothing, and if behind the last of them the
  clock shows sixty seconds more than before the first. -/
  late : ∀ text, r = .error (.chain (.receiptNotFound text)) →
    (∀ reply ∈ replies d, c.heard? hash reply = none) ∧ ∃ start finish : Duration,
      d.head? = some ⟨.now, start⟩ ∧ d.getLast? = some ⟨.now, finish⟩ ∧
      start.nanos + 60 * Duration.second ≤ finish.nanos

/-- At the end of a wait there is one reply, and if it tells nothing, then the clock shows the
deadline. -/
theorem Ends.reply {deadline : Duration} (ends : c.Ends hash deadline d r) :
    ∃ reply, requests d = [.receipt hash] ∧ replies d = [reply] ∧
      (c.heard? hash reply).getD (.error (missing hash)) = r ∧
      ∀ text, r = .error (.chain (.receiptNotFound text)) → c.heard? hash reply = none ∧
        ∃ now : Duration, d.getLast? = some ⟨.now, now⟩ ∧ deadline.nanos ≤ now.nanos := by
  cases ends with
  | @heard reply _ told =>
      refine ⟨reply, rfl, rfl, by rw [told]; rfl, ?_⟩
      rintro text rfl
      exact absurd told heard?_ne_missing
  | @late reply now untold reached =>
      refine ⟨reply, rfl, rfl, by rw [untold]; rfl, ?_⟩
      intro text _
      exact ⟨untold, now, rfl, reached⟩

theorem Minute.awaited {start : Duration} {idles : List (Except RpcError Json × Duration)}
    {last : Node.Dialogue} (minute : c.Minute hash start idles last r) :
    c.Awaited hash (⟨.now, start⟩ :: (idles.flatMap (idle hash) ++ last)) r := by
  obtain ⟨reply, sought, told, result, late⟩ := minute.ends.reply
  have few : idles.length ≤ 60 := minute.few
  have untold : ∀ earlier ∈ idles.map Prod.fst, c.heard? hash earlier = none := by
    intro earlier listed
    obtain ⟨x, among, rfl⟩ := List.mem_map.mp listed
    exact (minute.before x among).1
  have all : replies (⟨.now, start⟩ :: (idles.flatMap (idle hash) ++ last)) =
      idles.map Prod.fst ++ [reply] := by
    rw [← told, ← replies_idles hash]
    exact replies_append
  have counted : (idles.map Prod.fst ++ [reply]).length = idles.length + 1 := by
    rw [List.length_append, List.length_map]
    rfl
  refine ⟨?_, ⟨_, _, all, ?_, untold, result⟩, ?_⟩
  · have every : requests (idles.flatMap (idle hash) ++ last) =
        List.replicate (idles.length + 1) (.receipt hash) := by
      rw [requests_append, requests_idles, sought, List.replicate_succ']
    rw [all, counted]
    exact every
  · rw [counted]
    exact Nat.succ_le_succ few
  · intro text vain
    obtain ⟨nothing, finish, shown, reached⟩ := late text vain
    refine ⟨?_, start, finish, rfl, ?_, reached⟩
    · rw [all]
      exact List.forall_mem_append.mpr ⟨untold, List.forall_mem_singleton.mpr nothing⟩
    · rw [← List.cons_append, List.getLast?_append, shown]
      rfl

/-- A wait for a receipt, by a clock that never runs backwards. -/
theorem awaited_of_course (timely : Timely d) (course : (c.receipt hash).run.Course d r) :
    c.Awaited hash d r := by
  obtain ⟨start, idles, last, rfl, minute⟩ := (course_receipt_iff timely).mp course
  exact minute.awaited

theorem Awaited.eq_receipt (awaited : c.Awaited hash d r) {request : Request}
    {reply : Except RpcError Json} (listed : ⟨.request request, reply⟩ ∈ d) :
    request = .receipt hash := by
  have sought := mem_requests_iff.mpr ⟨reply, listed⟩
  rw [awaited.asked] at sought
  exact List.eq_of_mem_replicate sought

theorem Awaited.eq_of_heard (awaited : c.Awaited hash d r) {reply : Except RpcError Json}
    {r' : Except Failure Receipt} (listed : reply ∈ replies d) (told : c.heard? hash reply = some r') :
    r = r' := by
  obtain ⟨before, last, all, -, untold, result⟩ := awaited.heard
  rw [all] at listed
  rcases List.mem_append.mp listed with earlier | newest
  · exact nomatch told.symm.trans (untold reply earlier)
  · obtain rfl := List.mem_singleton.mp newest
    rw [← result, told]
    rfl

end Replies

end Arbitrage.Client
