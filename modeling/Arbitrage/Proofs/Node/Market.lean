import Arbitrage.Node.Wire
import Arbitrage.Proofs.Node.Book
import Arbitrage.Simulation.Scenario

/-!
# What a reading of the market is put together from

A market is read with a dozen or more requests, none of which names a block. So what is returned for
a block has the number of that block, whatever was read, and each value in it is, by itself, what the
chain had in some block while the market was being read; every such combination may be returned
(`sees_market_iff`). It belongs to one block if nothing changed in the meantime, and to the block
whose number it has if the chain was as in that block all the time.
-/

namespace Arbitrage.Client

open Node Process

variable {α : Type} {c : Client} {h : History} {window : Nat → Prop}

/-- Each value of a vault is what the chain had in some block of a window. -/
structure VaultPieces (c : Client) (h : History) (window : Nat → Prop) (v : Vault) : Prop where
  per : SeenWithin h window (c.amount .ray c.contracts.tub Selector.per) v.per
  off : SeenWithin h window (c.view c.contracts.tub Selector.off fun returned =>
    (Abi.wordAt? returned 0).map Abi.flagOf) v.off
  tag : ∃ reference, SeenWithin h window (c.amount .ray c.contracts.tap Selector.s2s) reference ∧
    v.tag = reference.rescale .wad
  gap : SeenWithin h window (c.amount .wad c.contracts.tap Selector.gap) v.gap
  joy : SeenWithin h window (c.amount .wad c.contracts.tap Selector.joy) v.joy
  woe : SeenWithin h window (c.amount .wad c.contracts.tap Selector.woe) v.woe
  fog : SeenWithin h window (c.amount .wad c.contracts.tap Selector.fog) v.fog
  feed : ∃ pip, SeenWithin h window (c.address c.contracts.tub Selector.pip) pip ∧
    SeenWithin h window (c.view pip Selector.peek readFeed) v.feed

theorem sees_vault_iff {v : Vault} :
    Sees h window c.vault.run (.ok v) ↔ VaultPieces c h window v := by
  simp only [vault, sees_attempt_iff, sees_amount_iff, sees_address_iff, sees_view_iff, sees_pure_iff]
  constructor
  · rintro ⟨per, per_seen, off, off_seen, pip, pip_seen, reference, reference_seen, gap, gap_seen,
      joy, joy_seen, woe, woe_seen, fog, fog_seen, feed, feed_seen, rfl⟩
    exact ⟨per_seen, off_seen, ⟨reference, reference_seen, rfl⟩, gap_seen, joy_seen, woe_seen,
      fog_seen, ⟨pip, pip_seen, feed_seen⟩⟩
  · rintro ⟨per_seen, off_seen, ⟨reference, reference_seen, tag⟩, gap_seen, joy_seen, woe_seen,
      fog_seen, ⟨pip, pip_seen, feed_seen⟩⟩
    refine ⟨_, per_seen, _, off_seen, pip, pip_seen, reference, reference_seen, _, gap_seen, _,
      joy_seen, _, woe_seen, _, fog_seen, _, feed_seen, ?_⟩
    rw [← tag]

section Keeper

variable {β : Type} {x : Arbitrage.Attempt α} {f : α → Arbitrage.Attempt β} {b : β}

theorem run_bind (c : Client) (p : Work α) (g : α → Work β) :
    c.run (p >>= g) = c.run p >>= fun a => c.run (g a) :=
  @Process.run_bind World α β (Process Node) _ c.answer _ p g

/-- Work of the keeper that succeeds is work whose parts succeed. -/
theorem sees_run_attempt_iff :
    Sees h window (c.run (x >>= f).run) (.ok b) ↔
      ∃ a, Sees h window (c.run x.run) (.ok a) ∧ Sees h window (c.run (f a).run) (.ok b) := by
  rw [ExceptT.run_bind, run_bind, sees_bind_iff]
  constructor
  · rintro ⟨_ | a, first, second⟩
    · cases sees_done_iff.mp second
    · exact ⟨a, first, second⟩
  · rintro ⟨a, first, second⟩
    exact ⟨.ok a, first, second⟩

theorem sees_run_pure_iff {a b : α} :
    Sees h window (c.run (pure a : Arbitrage.Attempt α).run) (.ok b) ↔ b = a := sees_pure_iff

theorem run_vault (c : Client) : c.run World.vault.run = c.vault.run := bind_pure _

theorem run_orders (c : Client) : c.run World.orders.run = c.orders.run := bind_pure _

theorem run_balance (c : Client) (token owner : Address) :
    c.run (World.balance token owner).run = (c.balance token owner).run := bind_pure _

end Keeper

/-- A reading of the market is one of the vault, one of the book and one of the balance. -/
theorem sees_market_iff {n : Nat} {account base : Address} {σ : MarketState} :
    Sees h window (c.run (World.market n account base).run) (.ok σ) ↔ σ.block = n ∧
      Sees h window c.vault.run (.ok σ.vault) ∧ Sees h window c.orders.run (.ok σ.orders) ∧
      Sees h window (c.balance base account).run (.ok σ.balance) := by
  simp only [World.market, sees_run_attempt_iff, sees_run_pure_iff, run_vault, run_orders,
    run_balance]
  constructor
  · rintro ⟨vault, vault_seen, orders, orders_seen, balance, balance_seen, rfl⟩
    exact ⟨rfl, vault_seen, orders_seen, balance_seen⟩
  · rintro ⟨rfl, vault_seen, orders_seen, balance_seen⟩
    exact ⟨_, vault_seen, _, orders_seen, _, balance_seen, rfl⟩

section Quiet

/-- What a chain that answers in one way has of a market. How the orders of the book are arranged is
not its affair. -/
structure Had (c : Client) (replies : Replies) (account base : Address) (σ : MarketState) : Prop where
  vault : seenIn replies c.vault.run = .ok σ.vault
  orders : ∃ book, seenIn replies c.orders.run = .ok book ∧ σ.orders.Perm book
  balance : seenIn replies (c.balance base account).run = .ok σ.balance

theorem asks_vault (c : Client) : c.vault.run.Asks Timeless := by
  refine Asks.attempt asks_view fun per => ?_
  refine Asks.attempt asks_view fun off => ?_
  refine Asks.attempt asks_view fun pip => ?_
  refine Asks.attempt asks_view fun reference => ?_
  refine Asks.attempt asks_view fun gap => ?_
  refine Asks.attempt asks_view fun joy => ?_
  refine Asks.attempt asks_view fun woe => ?_
  refine Asks.attempt asks_view fun fog => ?_
  exact Asks.attempt asks_view fun feed => asks_done _

/-- A reading during which the chain answers in one way is what the chain had. -/
theorem had_of_sees {n : Nat} {account base : Address} {σ : MarketState} {replies : Replies}
    (quiet : ∀ block, window block → h block = replies)
    (sees : Sees h window (c.run (World.market n account base).run) (.ok σ)) :
    c.Had replies account base σ := by
  obtain ⟨-, vault, orders, balance⟩ := sees_market_iff.mp sees
  exact ⟨seenIn_of_sees c.asks_vault quiet vault, exists_book_of_sees quiet orders,
    seenIn_of_sees asks_view quiet balance⟩

end Quiet

/-- What a reading of the market for block `n` may return. It has the number `n`, whatever was read;
and each value of the vault, the length of the book, each order and the balance is, by itself, what
the chain had in some block while the market was being read. Nothing more is certain: every such
combination may be returned. It is what the chain had in one block, and that block may be `n`, if the
node answered as in that block all the time. -/
theorem market_pieced (c : Client) (h : History) (window : Nat → Prop) (n : Nat)
    (account base : Address) (σ : MarketState) :
    (Sees h window (c.run (World.market n account base).run) (.ok σ) ↔
      σ.block = n ∧ VaultPieces c h window σ.vault ∧ BookPieces c h window σ.orders ∧
        SeenWithin h window (c.balance base account) σ.balance) ∧
      ∀ block, (∀ b, window b → h b = h block) →
        Sees h window (c.run (World.market n account base).run) (.ok σ) →
          c.Had (h block) account base σ := by
  refine ⟨?_, ?_⟩
  · rw [sees_market_iff, sees_vault_iff, sees_orders_iff, sees_balance_iff]
  · intro block quiet sees
    exact had_of_sees quiet sees

end Arbitrage.Client

namespace Arbitrage.Scenario

open Node

def observer : Client := ⟨keeper, contracts, Wire.reader⟩

/-- What a node answers to a call that returns some words. -/
def returning (words : List Nat) : Except RpcError Json :=
  .ok (.array ((words.flatMap Abi.word).map fun byte => .ofNat byte.toNat))

/-- In block 2 the vault sells its ten shares to the keeper, for a hundred sai. -/
def sale : History := fun block r =>
  match r with
  | .call target data =>
    if target = tokens.sai then returning [if block < 2 then 1000 * 10 ^ 18 else 900 * 10 ^ 18]
    else if data = Selector.peek then returning [10 ^ 19, 1]
    else returning [([(Selector.per, 10 ^ 27), (Selector.s2s, 10 ^ 28), (Selector.gap, 10 ^ 18),
      (Selector.woe, if block < 2 then 1000 * 10 ^ 18 else 900 * 10 ^ 18),
      (Selector.fog, if block < 2 then 10 ^ 19 else 0)].lookup data).getD 0]
  | _ => .error (.response (-32000) "no answer")

theorem sale_eq (block : Nat) : sale block = sale (if block < 2 then 1 else 2) := by
  funext r
  by_cases early : block < 2 <;> simp [sale, early]

def vaultBefore : Vault :=
  ⟨.one, .ofUnits 10, .one, .zero, .ofUnits 1000, .ofUnits 10, false, ⟨.ofUnits 10, true⟩⟩

def vaultAfter : Vault := { vaultBefore with woe := .ofUnits 900, fog := .zero }

end Arbitrage.Scenario

namespace Arbitrage.Client

open Node Scenario

/-- Two readings for block 1 while block 2 arrives, in which the keeper buys shares. If the block
arrives before the balance is read, the keeper has paid for shares that are still for sale, which the
chain had in no block. If it arrives before anything is read, what is returned for block 1 is what the
chain had in block 2. -/
theorem market_torn :
    (∃ σ, Sees sale (fun block => block = 1 ∨ block = 2)
        (observer.run (World.market 1 keeper Scenario.tokens.sai).run) (.ok σ) ∧
      σ = ⟨1, vaultBefore, [], .ofUnits 900⟩ ∧
      ∀ block, ¬ observer.Had (sale block) keeper Scenario.tokens.sai σ) ∧
    ∃ σ, Sees sale (· = 2) (observer.run (World.market 1 keeper Scenario.tokens.sai).run) (.ok σ) ∧
      σ = ⟨1, vaultAfter, [], .ofUnits 900⟩ ∧ ¬ observer.Had (sale 1) keeper Scenario.tokens.sai σ := by
  have before : seenIn (sale 1) observer.vault.run = .ok vaultBefore := by rfl
  have after : seenIn (sale 2) observer.vault.run = .ok vaultAfter := by rfl
  have empty : seenIn (sale 1) observer.orders.run = .ok [] := by rfl
  have empty' : seenIn (sale 2) observer.orders.run = .ok [] := by rfl
  have held : seenIn (sale 1) (observer.balance Scenario.tokens.sai keeper).run = .ok (.ofUnits 1000) := by
    rfl
  have paid : seenIn (sale 2) (observer.balance Scenario.tokens.sai keeper).run = .ok (.ofUnits 900) := by
    rfl
  have sold : vaultBefore ≠ vaultAfter := by decide
  have spent : (.ofUnits 1000 : Wad) ≠ .ofUnits 900 := by decide
  -- The blocks only move on from one read to the next: first 1, 1, 2, then 2 throughout.
  refine ⟨⟨_, sees_market_iff.mpr ⟨rfl, ?_, ?_, ?_⟩, rfl, ?_⟩,
    _, sees_market_iff.mpr ⟨rfl, ?_, ?_, ?_⟩, rfl, ?_⟩
  · exact sees_of_seenIn (.inl rfl) before
  · exact sees_of_seenIn (.inl rfl) empty
  · exact sees_of_seenIn (.inr rfl) paid
  · intro block had
    rw [sale_eq] at had
    by_cases early : block < 2
    · rw [if_pos early] at had
      exact spent (Except.ok.inj (held.symm.trans had.balance))
    · rw [if_neg early] at had
      exact sold (Except.ok.inj (after.symm.trans had.vault)).symm
  · exact sees_of_seenIn rfl after
  · exact sees_of_seenIn rfl empty'
  · exact sees_of_seenIn rfl paid
  · intro had
    exact spent (Except.ok.inj (held.symm.trans had.balance))

end Arbitrage.Client
