import Arbitrage.Node.Script
import Arbitrage.Node.Wire
import Arbitrage.Proofs.Chain.Patience
import Arbitrage.Proofs.Node.Receipt

/-!
# Sending a call to a node, with patience

A call is sent in one request, if it can be encoded, and then its receipt is waited for. A wait that
fails in passing is followed by another one, with a minute of its own, until the attempts are used up
(`Confirmed`). None of the waits sends anything, and a receipt that is in a reply to any of them is
the result, so a transaction is reported as missing only after all of them (`receipt_never_missed`).
-/

namespace Arbitrage.Client

open Node Process

section Confirmation

variable {c : Client} {patience : Patience} {call : Call} {hash : Word} {d : Node.Dialogue}
  {r : Except Failure Receipt}

/-- How a call is sent: not at all if it cannot be encoded, and otherwise once. -/
inductive Sending (c : Client) (call : Call) : Node.Dialogue → Except Failure Word → Prop
  | unfit {e : SubmissionError} (unencoded : call.calldata = .error e) :
      Sending c call [] (.error (.submission e))
  | failed {data : Bytes} {reply : Except RpcError Json} {e : Failure}
      (encoded : call.calldata = .ok data)
      (told : understood (.send c.account call.target data) c.reader.hash reply = .error e) :
      Sending c call [⟨.request (.send c.account call.target data), reply⟩] (.error e)
  | sent {data : Bytes} {reply : Except RpcError Json} {hash : Word}
      (encoded : call.calldata = .ok data)
      (told : understood (.send c.account call.target data) c.reader.hash reply = .ok hash) :
      Sending c call [⟨.request (.send c.account call.target data), reply⟩,
        ⟨.record (.transactionSent hash call), ()⟩] (.ok hash)

theorem sending_of_course {answer : Except Failure Word}
    (course : (c.broadcast call).run.Course d answer) : Sending c call d answer := by
  rw [broadcast] at course
  split at course
  · next e unencoded =>
      obtain ⟨rfl, rfl⟩ := course_done_iff.mp course
      exact .unfit unencoded
  · next data encoded =>
      rw [ExceptT.run_bind, run_ask, bind_assoc] at course
      obtain ⟨reply, _, rfl, read⟩ := course_request_bind_iff.mp course
      rw [pure_bind] at read
      cases told : understood (.send c.account call.target data) c.reader.hash reply with
      | error e =>
          rw [told] at read
          obtain ⟨rfl, rfl⟩ := course_done_iff.mp read
          exact .failed encoded told
      | ok hash =>
          rw [told] at read
          obtain ⟨_, _, rfl, ended⟩ := course_ask_iff.mp read
          obtain ⟨rfl, rfl⟩ := course_done_iff.mp ended
          exact .sent encoded told

/-- A wait that failed, the report of it and the pause behind it, with the number of that pause. -/
def paused (patience : Patience) (x : (Node.Dialogue × Failure) × Nat) : Node.Dialogue :=
  x.1.1 ++ [⟨.record (.retrying "submit" (x.2 + 1) patience.attempts (patience.delay x.2) x.1.2), ()⟩,
    ⟨.sleep (patience.delay x.2), ()⟩]

/-- What becomes of a call that is sent with patience: it cannot be encoded, it is not taken, or it
is sent once and waited for. -/
inductive Confirmed (c : Client) (patience : Patience) (call : Call) :
    Node.Dialogue → Except Failure Receipt → Prop
  /-- If it is not sent, there is nothing to wait for. -/
  | unsent {d : Node.Dialogue} {e : Failure} (sending : Sending c call d (.error e)) :
      Confirmed c patience call d (.error e)
  /-- Else its receipt is waited for again and again, as long as a wait fails in passing and the
  attempts are not used up; the last wait tells the result. -/
  | sent {d last : Node.Dialogue} {hash : Word} {failed : List (Node.Dialogue × Failure)}
      {r : Except Failure Receipt} (sending : Sending c call d (.ok hash))
      (passing : ∀ x ∈ failed, c.Awaited hash x.1 (.error x.2) ∧ x.2.isTransient = true)
      (final : c.Awaited hash last r) (limited : failed.length + 1 ≤ max patience.attempts 1)
      (ended : Settled r ∨ failed.length + 1 = max patience.attempts 1) :
      Confirmed c patience call (d ++ (failed.zipIdx.flatMap (paused patience) ++ last)) r

/-- Waits of the keeper are waits for a receipt from the node. -/
theorem exists_waits {failed : List (World.Dialogue × Failure)} {retry : Nat}
    (passing : ∀ x ∈ failed, (World.receipt hash).run.Course x.1 (.error x.2) ∧
      x.2.isTransient = true)
    (carried : Carried c.answer ((failed.zipIdx retry).flatMap (pausing patience "submit") ++
      [⟨.receipt hash, r⟩]) d) (timely : Timely d) :
    ∃ (waits : List (Node.Dialogue × Failure)) (last : Node.Dialogue),
      waits.length = failed.length ∧
      (∀ x ∈ waits, c.Awaited hash x.1 (.error x.2) ∧ x.2.isTransient = true) ∧
      c.Awaited hash last r ∧ d = (waits.zipIdx retry).flatMap (paused patience) ++ last := by
  induction failed generalizing retry d with
  | nil =>
      obtain ⟨last, _, rfl, course, rfl⟩ := carried
      rw [List.append_nil] at timely ⊢
      exact ⟨[], last, rfl, List.forall_mem_nil _, awaited_of_course timely course, rfl⟩
  | cons x failed ih =>
      obtain ⟨⟨asked, transient⟩, others⟩ := List.forall_mem_cons.mp passing
      have single : x.1 = [⟨.receipt hash, .error x.2⟩] := course_request_iff.mp asked
      rw [List.zipIdx_cons, List.flatMap_cons, pausing, single, List.append_assoc] at carried
      -- The failed wait, the report of it and the pause are three answers of the client.
      obtain ⟨first, _, rfl, course, _, _, rfl, recorded, _, _, rfl, slept, rest⟩ := carried
      obtain rfl := course_request_iff.mp recorded
      obtain rfl := course_request_iff.mp slept
      obtain ⟨waits, last, count, waited, final, rfl⟩ :=
        ih others rest (timely.append_right.append_right.append_right.timely)
      refine ⟨(first, x.2) :: waits, last, congrArg (· + 1) count, ?_, final, ?_⟩
      · exact List.forall_mem_cons.mpr
          ⟨⟨awaited_of_course timely.append_left course, transient⟩, waited⟩
      · simp [paused]

theorem confirmed_of_course (timely : Timely d)
    (course : (c.run (confirm patience call).run).Course d r) : Confirmed c patience call d r := by
  obtain ⟨e, keeper, carried⟩ := course_run_iff.mp course
  obtain ⟨failure, sent, rfl⟩ | ⟨_, hash, _, rfl, sent, waited⟩ := course_attempt_iff.mp keeper
  · obtain rfl := course_request_iff.mp sent
    obtain ⟨d, _, rfl, broadcast, rfl⟩ := carried
    rw [List.append_nil]
    exact .unsent (sending_of_course broadcast)
  · obtain rfl := course_request_iff.mp sent
    obtain ⟨sending, waiting, rfl, broadcast, rest⟩ := carried
    obtain ⟨failed, last, tries, rfl⟩ := course_persist_iff.mp waited
    obtain rfl := course_request_iff.mp tries.final
    obtain ⟨waits, final, count, passing, awaited, rfl⟩ :=
      exists_waits tries.passing rest timely.append_right.timely
    refine .sent (sending_of_course broadcast) passing awaited ?_ ?_
    · rw [count]
      exact tries.limited
    · rw [count]
      exact tries.ended

def isSend : Request → Bool
  | .send .. => true
  | _ => false

/-- Where a request is made while a receipt is waited for again and again. -/
theorem mem_waits {failed : List (Node.Dialogue × Failure)} {last : Node.Dialogue}
    {request : Request} {reply : Except RpcError Json}
    (listed : ⟨.request request, reply⟩ ∈ failed.zipIdx.flatMap (paused patience) ++ last) :
    (∃ y ∈ failed, ⟨.request request, reply⟩ ∈ y.1) ∨ ⟨.request request, reply⟩ ∈ last := by
  rcases List.mem_append.mp listed with before | final
  · obtain ⟨y, numbered, within⟩ := List.mem_flatMap.mp before
    rcases List.mem_append.mp within with wait | pause
    · exact .inl ⟨y.1, List.fst_mem_of_mem_zipIdx numbered, wait⟩
    · rcases List.mem_cons.mp pause with same | pause
      · cases same
      · cases List.mem_singleton.mp pause
  · exact .inr final

theorem Sending.requests_eq {answer : Except Failure Word} (sending : Sending c call d answer) :
    requests d = (call.calldata.toOption.map (Request.send c.account call.target)).toList := by
  cases sending with
  | unfit unencoded => rw [unencoded]; rfl
  | failed encoded | sent encoded => rw [encoded]; rfl

theorem Confirmed.sends_eq (confirmed : Confirmed c patience call d r) :
    (requests d).filter isSend =
      (call.calldata.toOption.map (Request.send c.account call.target)).toList := by
  have sends : ∀ {sent : Node.Dialogue} {answer : Except Failure Word}, Sending c call sent answer →
      (requests sent).filter isSend = requests sent := by
    rintro _ _ (_ | _ | _) <;> rfl
  cases confirmed with
  | unsent sending => rw [sends sending, sending.requests_eq]
  | @sent _ last _ failed _ sending passing final =>
      rw [requests_append, List.filter_append, sends sending, sending.requests_eq]
      refine List.append_right_eq_self.mpr (List.filter_eq_nil_iff.mpr fun request sought => ?_)
      obtain ⟨reply, listed⟩ := mem_requests_iff.mp sought
      rcases mem_waits listed with ⟨y, among, within⟩ | within
      · rw [(passing y among).1.eq_receipt within]
        nofun
      · rw [final.eq_receipt within]
        nofun

theorem Confirmed.eq_of_heard (confirmed : Confirmed c patience call d r)
    {reply : Except RpcError Json} {receipt : Receipt}
    (listed : ⟨.request (.receipt hash), reply⟩ ∈ d)
    (told : c.heard? hash reply = some (.ok receipt)) : r = .ok receipt := by
  have unheard : ∀ {sent : Node.Dialogue} {answer : Except Failure Word}, Sending c call sent answer →
      ⟨.request (.receipt hash), reply⟩ ∉ sent := by
    intro sent answer sending early
    have sought := mem_requests_iff.mpr ⟨_, early⟩
    rw [sending.requests_eq, Option.mem_toList] at sought
    obtain ⟨data, -, same⟩ := Option.map_eq_some_iff.mp sought
    cases same
  cases confirmed with
  | unsent sending => exact absurd listed (unheard sending)
  | @sent _ last _ failed _ sending passing final =>
      rcases mem_waits ((List.mem_append.mp listed).resolve_left (unheard sending)) with
        ⟨y, among, within⟩ | within
      · have awaited := (passing y among).1
        cases awaited.eq_receipt within
        exact nomatch awaited.eq_of_heard (mem_replies within) told
      · cases final.eq_receipt within
        exact final.eq_of_heard (mem_replies within) told

end Confirmation

/-- In any surroundings with a clock that never runs backwards, whatever the node replies, however its
replies are read and however long it takes, a wait for a receipt asks for it at most 61 times and comes
to what the first reply tells that tells anything, a receipt or a failure; the receipt is missing only
if none does, and not before a minute is over. A reply tells nothing only if it is null, and a receipt
tells of success if its status does. When a call is sent with patience, it is sent once, the permitted
waits follow one another, and a receipt that is in a reply to any of them is the result. -/
theorem receipt_never_missed {σ : Type} {answer : (query : Node.Query) → StateM σ (Node.Answer query)}
    {time : σ → Nat} (clocked : Clocked answer time) (world : σ) (c : Client) :
    (∀ hash, c.Awaited hash ((c.receipt hash).run.transcript answer world)
      ((c.receipt hash).run.run answer world).1) ∧
    (∀ hash reply, (c.heard? hash reply = none ↔ reply = .ok .null) ∧
      ∀ receipt, c.heard? hash reply = some (.ok receipt) ↔ ∃ json mined, reply = .ok json ∧
        json ≠ .null ∧ c.reader.receipt json = some mined ∧
        receipt = ⟨hash, mined.block, mined.gas, mined.status⟩) ∧
    ∀ (patience : Patience) (call : Call), ∃ d r,
      (c.run (confirm patience call).run).transcript answer world = d ∧
      ((c.run (confirm patience call).run).run answer world).1 = r ∧
      Confirmed c patience call d r ∧
      (requests d).filter isSend =
        (call.calldata.toOption.map (Request.send c.account call.target)).toList ∧
      ∀ hash reply receipt, ⟨.request (.receipt hash), reply⟩ ∈ d →
        c.heard? hash reply = some (.ok receipt) → r = .ok receipt := by
  refine ⟨fun hash => ?_, fun hash reply => ⟨heard?_eq_none_iff, fun receipt => ?_⟩, ?_⟩
  · exact awaited_of_course (timely_transcript clocked _ world)
      (course_transcript (I := Node) answer _ world)
  · exact heard?_eq_ok_iff
  · intro patience call
    have confirmed : Confirmed c patience call _ _ :=
      confirmed_of_course (timely_transcript clocked _ world)
        (course_transcript (I := Node) answer _ world)
    exact ⟨_, _, rfl, rfl, confirmed, confirmed.sends_eq,
      fun hash reply receipt listed told => confirmed.eq_of_heard listed told⟩

def minedReceipt : Json :=
  .object [("type", .string "0x2"), ("status", .string "0x1"),
    ("cumulativeGasUsed", .string "0x5208"), ("logs", .array []),
    ("logsBloom", .array (List.replicate Wire.filterWidth (.ofNat 0))),
    ("transactionHash", .array (List.replicate Word.width (.ofNat 7))),
    ("blockNumber", .string "0x5"), ("gasUsed", .string "0x5208"),
    ("effectiveGasPrice", .string "0x1"),
    ("from", .array (List.replicate Address.width (.ofNat 1)))]

/-- A node whose receipt is there only when it is asked for the 63rd time. -/
def lateNode : NodeScript where
  replies := [("eth_sendTransaction", [.ok (.array (List.replicate Word.width (.ofNat 7)))]),
    ("eth_getTransactionReceipt", List.replicate 62 (.ok .null) ++ [.ok minedReceipt])]

def lateClient : Client where
  account := .repeated 0x11
  contracts := ⟨.repeated 0xa1, .repeated 0xa2, .repeated 0xa3, none⟩
  reader := Wire.reader

/-- The first wait is in vain, after 61 requests; the second finds the receipt. -/
theorem receipt_never_missed_late :
    ∃ d r, Confirmed lateClient ⟨2, .ofSeconds 1⟩ lateCall d r ∧
      r.toOption = some ⟨Word.ofBytes (List.replicate Word.width 7), some 5, 21000, true⟩ ∧
      (replies d).length = 63 ∧ ((requests d).filter isSend).length = 1 := by
  obtain ⟨-, -, confirmed⟩ := receipt_never_missed NodeScript.clocked lateNode lateClient
  obtain ⟨d, r, rfl, rfl, confirms, sends, -⟩ := confirmed ⟨2, .ofSeconds 1⟩ lateCall
  refine ⟨_, _, confirms, by decide +kernel, by decide +kernel, ?_⟩
  rw [sends]
  decide +kernel

end Arbitrage.Client
