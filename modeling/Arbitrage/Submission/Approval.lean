import Arbitrage.World

/-!
# Approvals

An approval allows a contract to pull a token from its owner. The keeper raises every allowance to
the maximum, once, and then leaves it. Trading needs the protocol approvals of the account that
calls the protocol: the keeper itself, or in batched mode the batch executor, which in turn pulls
the tokens from the keeper.
-/

namespace Arbitrage

/-- A token and the contract that may pull it; whose approval it is depends on who sends it. -/
structure Approval where
  token : Address
  spender : Address
  deriving DecidableEq, Repr

namespace Approval

def allowance : Word := Word.max

def call (a : Approval) : Call := .approve a.token a.spender allowance

/-- What an account that trades every edge has to approve: for every contract the tokens that it
pulls. -/
def protocol (tokens : Tokens) (contracts : Contracts) : List Approval := [
  ⟨tokens.gem, contracts.tub⟩, ⟨tokens.skr, contracts.tub⟩,
  ⟨tokens.skr, contracts.tap⟩, ⟨tokens.sai, contracts.tap⟩,
  ⟨tokens.gem, contracts.otc⟩, ⟨tokens.skr, contracts.otc⟩, ⟨tokens.sai, contracts.otc⟩]

def forExecutor (tokens : Tokens) (executor : Address) : List Approval :=
  tokens.all.map fun (_, token) => ⟨token, executor⟩

/-- What the keeper has to approve: the protocol if it trades itself, and the batch executor if that
does. -/
def own (tokens : Tokens) (contracts : Contracts) : Mode → List Approval
  | .direct => protocol tokens contracts
  | .batched executor => forExecutor tokens executor

/-- Split approvals of an owner into those that are missing and those that are present. -/
def split (owner : Address) : List Approval → Attempt (List Approval × List Approval)
  | [] => return ([], [])
  | a :: rest => do
    let present ← World.allowance a.token owner a.spender
    let (missing, set) ← split owner rest
    return if present = allowance then (missing, a :: set) else (a :: missing, set)

end Approval

/-- The approvals that one pass of staging wrote, and those that it found in place. -/
structure Staging where
  written : List Approval
  present : List Approval
  deriving DecidableEq, Repr

def Staging.isIdle (s : Staging) : Bool := s.written.isEmpty

end Arbitrage
