import Arbitrage.World

/-!
# Scripted worlds

A scripted world answers from prepared lists. It checks nothing and its answers do not depend on
what was sent, so any behaviour of a chain, however odd, can be written down.
-/

namespace Arbitrage

/-- Answers given one after the other, and the one that is given when they are used up. -/
structure Replies (α : Type) where
  queued : List α := []
  standing : α
  deriving Repr

namespace Replies

variable {α : Type}

def next (r : Replies α) : α × Replies α :=
  match r.queued with
  | [] => (r.standing, r)
  | a :: rest => (a, { r with queued := rest })

def append (r : Replies α) (answers : List α) : Replies α :=
  { r with queued := r.queued ++ answers }

@[simp] theorem next_nil (a : α) : (Replies.mk [] a).next = (a, ⟨[], a⟩) := rfl

@[simp] theorem next_cons (a b : α) (rest : List α) :
    (Replies.mk (a :: rest) b).next = (a, ⟨rest, b⟩) := rfl

end Replies

/-- A world of prepared answers, for running the work of the keeper on a given course of events. -/
structure Script where
  tokens : Tokens
  vaults : Replies (Except Failure Vault)
  orders : List Order := []
  balance : Wad
  heads : Replies (Except Failure Nat) :=
    { standing := .error (.chain (.unreachable "script exhausted")) }
  allowances : Replies (Except Failure Word) := { standing := .ok Word.max }
  /-- The failure of each broadcast, or none if it goes through. -/
  broadcasts : Replies (Option Failure) := { standing := none }
  /-- The receipts, but for their hashes, which are those asked for. -/
  receipts : Replies (Except Failure Receipt) := { standing := .ok ⟨0, none, 21000, true⟩ }
  sent : Nat := 0

namespace Script

/-- The hash of a transaction is its number, counted from one. -/
def hashOf (number : Nat) : Word := BitVec.ofNat 256 number

def take {α : Type} (replies : Script → Replies α) (store : Script → Replies α → Script) :
    StateM Script α :=
  modifyGet fun s =>
    let (a, rest) := (replies s).next
    (a, store s rest)

/-- Send a transaction, unless a failure is prepared for it; its hash is its number among those that
went through. -/
def broadcast : StateM Script (Except Failure Word) := do
  match ← take broadcasts fun s rest => { s with broadcasts := rest } with
  | some e => return .error e
  | none => modifyGet fun s => (.ok (hashOf (s.sent + 1)), { s with sent := s.sent + 1 })

def answer : (query : World.Query) → StateM Script (World.Answer query)
  | .blockNumber => take heads fun s rest => { s with heads := rest }
  | .tokens => return .ok (← get).tokens
  | .vault => take vaults fun s rest => { s with vaults := rest }
  | .orders => return .ok (← get).orders
  | .balance _ _ => return .ok (← get).balance
  | .allowance _ _ _ => take allowances fun s rest => { s with allowances := rest }
  | .broadcast _ => broadcast
  | .receipt hash => do
    let receipt ← take receipts fun s rest => { s with receipts := rest }
    return receipt.map ({ · with hash })
  | .sleep _ => return ()
  | .record _ => return ()
  | .enter _ => return ()

end Script

end Arbitrage
