import Arbitrage.Node
import Arbitrage.World

/-!
# The world behind a node

A client answers the questions of the keeper by asking a node: it reads the contracts word by word,
sends transactions from its account, and waits for a receipt up to a minute, asking once a second.
Each read is a request of its own, and nothing ties the reads of one snapshot to one block. The orders
of the book are read ten at a time, so they come in as the node replies and not as they are numbered.
-/

namespace Arbitrage

/-- Who talks to a node, about which contracts, and how the replies are read. A client has no state:
all it learns is in what it returns. -/
structure Client where
  account : Address
  contracts : Contracts
  reader : ReplyReader

namespace Client

/-- Call a contract and make sense of what it returns. A reply that is no byte string and bytes that
are too short are different failures, and neither is worth a second attempt. -/
def view {α : Type} (c : Client) (target : Address) (data : Bytes) (read : Bytes → Option α) :
    Node.Attempt α :=
  ExceptT.mk do
    match ← Node.request (.call target data) with
    | .error e => return .error (.contract (.rpc e))
    | .ok json =>
      match c.reader.bytes json with
      | none => return .error (.contract (.rpc (.malformed "byte string expected")))
      | some returned =>
        match read returned with
        | some a => return .ok a
        | none => return .error (.contract (.undecodable "buffer overrun while deserializing"))

/-- A request whose answer must have the given form; any other answer is a failure that names the
method. -/
def ask {α : Type} (r : Node.Request) (read : Json → Option α) : Node.Attempt α :=
  ExceptT.mk do
    match ← Node.request r with
    | .error e => return .error (.rpc e)
    | .ok json =>
      match read json with
      | some a => return .ok a
      | none => return .error (.rpc (.malformed ("unexpected answer to " ++ r.method)))

/-- The word that a contract returns; what stands behind the first word is ignored. -/
def word (c : Client) (target : Address) (selector : Bytes) : Node.Attempt Word :=
  c.view target selector (Abi.wordAt? · 0)

def address (c : Client) (target : Address) (selector : Bytes) : Node.Attempt Address :=
  c.view target selector fun returned => (Abi.wordAt? returned 0).map Abi.addressOf

def amount (c : Client) (s : Scale) (target : Address) (selector : Bytes) :
    Node.Attempt (Amount s) :=
  c.view target selector fun returned => (Abi.wordAt? returned 0).map Amount.ofWord

def blockNumber (c : Client) : Node.Attempt Nat := ask .blockNumber c.reader.number

/-- The addresses of the vault tokens, read one after the other and not kept: they are asked for
once, at the start. -/
def tokens (c : Client) : Node.Attempt Tokens := do
  return {
    gem := ← c.address c.contracts.tub Selector.gem
    skr := ← c.address c.contracts.tub Selector.skr
    sai := ← c.address c.contracts.tub Selector.sai }

/-- What the price feed returns: a value and whether it counts, in the first two words. -/
def readFeed (returned : Bytes) : Option Feed := do
  return ⟨.ofWord (← Abi.wordAt? returned 0), Abi.flagOf (← Abi.wordAt? returned 1)⟩

/-- The state of the vault, a request a field. The liquidator keeps the reference price with the
digits of a ray, and it is cut to those of a wad. -/
def vault (c : Client) : Node.Attempt Vault := do
  let per ← c.amount .ray c.contracts.tub Selector.per
  let off ← c.view c.contracts.tub Selector.off fun returned =>
    (Abi.wordAt? returned 0).map Abi.flagOf
  let pip ← c.address c.contracts.tub Selector.pip
  let reference ← c.amount .ray c.contracts.tap Selector.s2s
  let gap ← c.amount .wad c.contracts.tap Selector.gap
  let joy ← c.amount .wad c.contracts.tap Selector.joy
  let woe ← c.amount .wad c.contracts.tap Selector.woe
  let fog ← c.amount .wad c.contracts.tap Selector.fog
  let feed ← c.view pip Selector.peek readFeed
  return { per, tag := reference.rescale .wad, gap, joy, woe, fog, off, feed }

/-- What the book returns for an order: both amounts with their tokens, the owner, and a time, which
must be there but is not kept. -/
def readOrder (id : Word) (returned : Bytes) : Option Order := do
  let pay ← Abi.wordAt? returned 0
  let payToken ← Abi.wordAt? returned 1
  let buy ← Abi.wordAt? returned 2
  let buyToken ← Abi.wordAt? returned 3
  let owner ← Abi.wordAt? returned 4
  let _ ← Abi.wordAt? returned 5
  return {
    id := ⟨id⟩
    payToken := Abi.addressOf payToken
    pay := .ofWord pay
    buyToken := Abi.addressOf buyToken
    buy := .ofWord buy
    owner := Abi.addressOf owner }

/-- One order of the book, whether it still rests there or not. -/
def order (c : Client) (id : Word) : Node.Attempt Order :=
  c.view c.contracts.otc (Selector.offers ++ Abi.tuple [.static (Word.toBytes id)]) (readOrder id)

/-- How many orders are read at a time, at most. -/
def width : Nat := 10

/-- Read the orders with some numbers, `count` in all. The first ten are under way at once, and as soon
as the read of one has ended, the next number takes its place. -/
def collect (c : Client) : (count : Nat) → (numbers : List Nat) → Node.Attempt (List Order)
  | 0, _ | _, [] => return []
  | count + 1, number :: numbers => do
    let i ← Node.ended (min numbers.length (width - 1))
    let ended := (number :: numbers).get (i.castLE (Nat.succ_le_succ (Nat.min_le_left ..)))
    let order ← c.order (BitVec.ofNat 256 ended)
    let rest ← c.collect count ((number :: numbers).eraseIdx i)
    return order :: rest

/-- Every order that was ever placed, as the reads of them end. Their count must fit into 64 bits,
and one read that fails is the failure of all. -/
def orders (c : Client) : Node.Attempt (List Order) := do
  let last ← c.word c.contracts.otc Selector.lastOfferId
  unless last.toNat < 2 ^ 64 do
    throw (.chain (.unexpectedResponse "last_offer_id does not fit in u64"))
  let orders ← c.collect last.toNat (List.range' 1 last.toNat)
  Node.record (.ordersRead last.toNat (orders.filter Order.isLive).length)
  return orders

def balance (c : Client) (token owner : Address) : Node.Attempt Wad :=
  c.amount .wad token (Selector.balanceOf ++ Abi.tuple [.static (Abi.address owner)])

/-- What a spender may pull of an owner's token, as a word: no scale is needed to see whether it is
enough. -/
def allowance (c : Client) (token owner spender : Address) : Node.Attempt Word :=
  c.word token (Selector.allowance ++
    Abi.tuple [.static (Abi.address owner), .static (Abi.address spender)])

/-- Send a call from the account; one that cannot be encoded is not sent. What was sent is reported
under the hash that the node gives it. -/
def broadcast (c : Client) (call : Call) : Node.Attempt Word := do
  match call.calldata with
  | .error e => throw (.submission e)
  | .ok data =>
    let hash ← ask (.send c.account call.target data) c.reader.hash
    Node.record (.transactionSent hash call)
    return hash

/-- How long to wait for a receipt before giving it up as missing. -/
def receiptTimeout : Duration := .ofSeconds 60

/-- The pause between two requests for a receipt. -/
def receiptPause : Duration := .ofSeconds 1

/-- The most requests that fit into one wait: the clock reaches the end of the wait with the last of
them, since every pause takes its time. -/
def receiptPolls : Nat := receiptTimeout.nanos / receiptPause.nanos + 1

/-- A receipt as the keeper keeps it, under the hash that it asked for; the hash in the reply is not
looked at. -/
def keep (hash : Word) (mined : Node.Mined) : Receipt :=
  ⟨hash, mined.block, mined.gas, mined.status⟩

/-- Ask once for a receipt. A reply of null means that there is none yet, which is no failure. -/
def findReceipt (c : Client) (hash : Word) : Node.Attempt (Option Receipt) :=
  ask (.receipt hash) fun
    | .null => some none
    | json => (c.reader.receipt json).map (some <| keep hash ·)

/-- Ask for a receipt at most `polls` times, until the clock shows the deadline. The clock is looked
at behind a reply of null only, so that a receipt that is there is never missed for being late. -/
def awaitReceipt (c : Client) (hash : Word) (deadline : Duration) :
    (polls : Nat) → Node.Attempt Receipt
  | 0 => throw (.chain (.receiptNotFound hash.hex))
  | polls + 1 => do
    match ← c.findReceipt hash with
    | some receipt => return receipt
    | none => do
      let now ← Node.now
      if deadline.nanos ≤ now.nanos then throw (.chain (.receiptNotFound hash.hex))
      Node.sleep receiptPause
      c.awaitReceipt hash deadline polls

/-- Wait for the receipt of a transaction, with a deadline from the moment at which the wait
begins. -/
def receipt (c : Client) (hash : Word) : Node.Attempt Receipt := do
  let start ← Node.now
  c.awaitReceipt hash ⟨start.nanos + receiptTimeout.nanos⟩ receiptPolls

/-- Answer the keeper by asking a node. The phases of the keeper's work are nothing that a node
hears of. -/
def answer (c : Client) : (query : World.Query) → Process Node (World.Answer query)
  | .blockNumber => c.blockNumber.run
  | .tokens => c.tokens.run
  | .vault => c.vault.run
  | .orders => c.orders.run
  | .balance token owner => (c.balance token owner).run
  | .allowance token owner spender => (c.allowance token owner spender).run
  | .broadcast call => (c.broadcast call).run
  | .receipt hash => (c.receipt hash).run
  | .sleep delay => Node.sleep delay
  | .record event => Node.record event
  | .enter _ => return ()

/-- Work of the keeper as work with a node: every question is replaced by the requests that answer
it. -/
def run {α : Type} (c : Client) (p : Work α) : Process Node α := p.run c.answer

end Client

end Arbitrage
