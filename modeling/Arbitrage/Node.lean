import Arbitrage.Event
import Arbitrage.Process

/-!
# Nodes of the chain

A node is asked over JSON-RPC: to call a contract without changing anything, for the number of the
newest block, to send a transaction, and for the receipt of one. Whoever talks to a node also has a
clock, can sleep, and may have several reads under way, which end in any order. Every answer stands
for the moment at which it was given: two reads may see different blocks.

How a reply is read is not decided here. A `ReplyReader` makes the values of the keeper out of the
JSON of a node, and whatever is proved of work with a node holds for every such reader.
-/

namespace Arbitrage

namespace Node

/-- A request to a node. These four are all that a keeper needs, which leaves signing to whoever
holds the key. -/
inductive Request
  /-- Call a contract in the newest block, and learn what it returns. -/
  | call (target : Address) (data : Bytes)
  /-- The number of the newest block. -/
  | blockNumber
  /-- Send a transaction, and learn its hash. -/
  | send (sender target : Address) (data : Bytes)
  /-- The receipt of a transaction, or nothing while it is not mined. -/
  | receipt (hash : Word)
  deriving DecidableEq, Repr

/-- The method that a request calls, by its name on the wire. -/
def Request.method : Request → String
  | call .. => "eth_call"
  | blockNumber => "eth_blockNumber"
  | send .. => "eth_sendTransaction"
  | receipt _ => "eth_getTransactionReceipt"

/-- What is asked on the way from a node: the node itself, the clock, the order in which reads end,
and what only acts. -/
inductive Query
  | request (request : Request)
  /-- The time on a clock that never runs backwards. -/
  | now
  /-- Which of several reads under way ends first, if there are `others` beside one. They are told
  apart by the order in which they were started. -/
  | ended (others : Nat)
  | sleep (delay : Duration)
  | record (event : Event)

/-- The kinds of answers. A request to the node may fail; everything else is always answered. -/
def Answer : Query → Type
  | .request _ => Except RpcError Json
  | .now => Duration
  | .ended others => Fin (others + 1)
  | .sleep _ | .record _ => Unit

end Node

/-- The interface to a node; a process over it may be run in any surroundings that answer its
questions. -/
def Node : Interface := ⟨Node.Query, Node.Answer⟩

namespace Node

/-- Work with a node that may fail, and then tells nothing but the failure. -/
abbrev Attempt (α : Type) := ExceptT Failure (Process Node) α

def request (r : Request) : Process Node (Except RpcError Json) := Process.request Node (.request r)

def now : Process Node Duration := Process.request Node .now

def ended (others : Nat) : Process Node (Fin (others + 1)) := Process.request Node (.ended others)

def sleep (delay : Duration) : Process Node Unit := Process.request Node (.sleep delay)

def record (event : Event) : Process Node Unit := Process.request Node (.record event)

/-- What a node's receipt tells of a transaction; a receipt whose block is not known yet is one all
the same. -/
structure Mined where
  block : Option Nat
  gas : Nat
  /-- The status of the receipt: whether the transaction took effect. -/
  status : Bool
  deriving DecidableEq, Repr

end Node

/-- How values are read out of a node's replies. A reply may make no sense as a value of the kind
that is asked for, and nothing else is assumed of a reader. -/
structure ReplyReader where
  /-- The bytes that a contract returns, before they are read as words. -/
  bytes : Json → Option Bytes
  /-- The number of a block, which has 64 bits on the wire. -/
  number : Json → Option Nat
  /-- The hash of a transaction. -/
  hash : Json → Option Word
  /-- A receipt that is there; a reply of null never gets here. -/
  receipt : Json → Option Node.Mined

end Arbitrage
