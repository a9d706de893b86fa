import Arbitrage.Node

/-!
# Scripted nodes

A scripted node answers calls of contracts from a table and all other requests from prepared lists,
the last answer of each again and again. Its clock shows the time spent asleep, and reads that are
under way together end in the order in which they were started.
-/

namespace Arbitrage

/-- A node of prepared answers, for running work with a node on a given course of replies. -/
structure NodeScript where
  /-- What contracts return, by the contract and the bytes it is called with; it never changes. -/
  views : List ((Address × Bytes) × Except RpcError Json) := []
  /-- The answers of all other methods, by the name of the method and in the order in which they are
  given. -/
  replies : List (String × List (Except RpcError Json)) := []
  clock : Duration := ⟨0⟩

namespace NodeScript

/-- The answer to a request for which none is prepared. -/
def silence : Except RpcError Json := .error (.response (-32000) "no answer")

def next : List (Except RpcError Json) → Except RpcError Json × List (Except RpcError Json)
  | [] => (silence, [])
  | [reply] => (reply, [reply])
  | reply :: rest => (reply, rest)

/-- Take the next answer of a method, and move on in the list of that method only. -/
def take (method : String) (n : NodeScript) : Except RpcError Json × NodeScript :=
  match n.replies.lookup method with
  | none => (silence, n)
  | some queued =>
    ((next queued).1, { n with
      replies := n.replies.map fun (name, replies) =>
        (name, if name = method then (next queued).2 else replies) })

def reply (n : NodeScript) : Node.Request → Except RpcError Json × NodeScript
  | .call target data => ((n.views.lookup (target, data)).getD silence, n)
  | r => n.take r.method

/-- Answer from the script; a pause passes on the clock and takes no time otherwise. -/
def answer : (query : Node.Query) → StateM NodeScript (Node.Answer query)
  | .request r => modifyGet fun n => n.reply r
  | .now => return (← get).clock
  | .ended others => return Fin.mk 0 others.succ_pos
  | .sleep delay => modify fun n => { n with clock := ⟨n.clock.nanos + delay.nanos⟩ }
  | .record _ => return ()

end NodeScript

end Arbitrage
