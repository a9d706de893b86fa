import Arbitrage.Proofs.Market.Snapshot

/-!
# What the vault offers, and what it does

The vault trades at `bid`, which is what it pays for a share, and at `ask`, which is what it asks for
one; collateral is worth `per` to a share. `Does` says what comes of an operation at these prices, in
natural numbers and with each rounding written out. The edges that the vault offers state no more
than that: whoever puts in what an edge admits gets what the edge states, and the vault has as much
(`fixedEdges_keep`). Nor does it hold back: boom and bust are offered whenever their prices and
capacities do not round to zero.
-/

namespace Arbitrage

def Capacity.limit? : Capacity → Option Wad
  | .unbounded => none
  | .input limit | .output limit => some limit

namespace Vault

variable {v : Vault} {ids : VaultAssets} {edges : List Edge} {e : Edge} {op : VaultOp}

/-- Stablecoin for one share sold to the vault, in steps; nothing once the spread exceeds two. -/
def bid (v : Vault) : Nat := v.tag.raw * (2 * 10 ^ 18 - v.gap.raw) / 10 ^ 18

/-- Stablecoin asked for one share bought from the vault, in steps. -/
def ask (v : Vault) : Nat := v.tag.raw * v.gap.raw / 10 ^ 18

/-- What the vault does about an operation is within what an edge says, `x` going in and `y` coming
out: it charges no more than `x`, pays no less than `y`, and has as much as that takes. -/
def Does (v : Vault) (x y : Wad) : VaultOp → Prop
  | .join => y.raw * v.per.raw / 10 ^ 27 ≤ x.raw
  | .exit => y.raw ≤ x.raw * v.per.raw / 10 ^ 27
  | .boom => y.raw = x.raw * v.bid / 10 ^ 18 ∧ y.raw ≤ v.joy.raw
  | .bust => y.raw ≤ v.fog.raw ∧ y.raw * v.ask / 10 ^ 18 ≤ x.raw ∧
      y.raw * v.ask / 10 ^ 18 ≤ v.woe.raw

/-- An edge of an operation that the vault may offer, and that it keeps. -/
structure Keeps (v : Vault) (op : VaultOp) (e : Edge) : Prop where
  /-- Its price is not zero, and neither is its capacity. -/
  terms : ∃ price capacity, e.terms = .fixedPrice op price capacity ∧ price.raw ≠ 0 ∧
    ∀ limit ∈ capacity.limit?, limit.raw ≠ 0
  caged : v.off = true → op = .exit
  narrow : op = .boom → v.gap.raw < 2 * 10 ^ 18
  does : ∀ x, e.admits x = true → v.Does x (e.output x) op

section Prices

theorem raw_tag_mul_spread {spread : Wad}
    (same : spread.raw + v.gap.raw = (Amount.ofUnits 2 : Wad).raw) :
    (v.tag * spread : Wad).raw = v.bid := by
  have rest : spread.raw = 2 * 10 ^ 18 - v.gap.raw := Nat.eq_sub_of_add_eq same
  rw [bid, ← rest]
  rfl

theorem gap_lt_of_bid_ne_zero (price : v.bid ≠ 0) : v.gap.raw < 2 * 10 ^ 18 := by
  refine Nat.not_le.mp fun wide => price ?_
  rw [bid, Nat.sub_eq_zero_of_le wide, Nat.mul_zero, Nat.zero_div]

theorem exists_boom_edge_iff :
    (∃ e, v.edge? ids .boom = some e) ↔ v.bid ≠ 0 ∧ v.joy.raw * 10 ^ 18 / v.bid ≠ 0 := by
  simp only [boom_edge?_iff]
  constructor
  · rintro ⟨e, spread, capacity, same, price, quotient, nonzero, -⟩
    rw [raw_tag_mul_spread same] at price quotient
    exact ⟨price, quotient ▸ nonzero⟩
  · rintro ⟨price, nonzero⟩
    have narrow := gap_lt_of_bid_ne_zero price
    have same : (⟨2 * 10 ^ 18 - v.gap.raw⟩ : Wad).raw + v.gap.raw = (Amount.ofUnits 2 : Wad).raw :=
      Nat.sub_add_cancel (Nat.le_of_lt narrow)
    refine ⟨_, ⟨2 * 10 ^ 18 - v.gap.raw⟩, ⟨v.joy.raw * 10 ^ 18 / v.bid⟩, same, ?_, ?_, nonzero, rfl⟩
    · rw [raw_tag_mul_spread same]
      exact price
    · rw [raw_tag_mul_spread same]

theorem exists_bust_edge_iff :
    (∃ e, v.edge? ids .bust = some e) ↔ v.ask ≠ 0 ∧ 10 ^ 36 / v.ask ≠ 0 ∧
      Nat.min (v.woe.raw * 10 ^ 18 / v.ask) v.fog.raw ≠ 0 := by
  simp only [bust_edge?_iff]
  constructor
  · rintro ⟨e, price, covered, capacity, cost, inverse, nonzero, quotient, rfl, some, -⟩
    rw [Amount.raw_min, quotient] at some
    exact ⟨cost, inverse ▸ nonzero, some⟩
  · rintro ⟨cost, nonzero, some⟩
    exact ⟨_, ⟨10 ^ 36 / v.ask⟩, ⟨v.woe.raw * 10 ^ 18 / v.ask⟩, _, cost, rfl, nonzero, rfl, rfl,
      by rwa [Amount.raw_min], rfl⟩

end Prices

/-- What the vault offers at all: the edges of the operations that it may do. -/
theorem mem_fixedEdges_iff (offered : v.fixedEdges ids = .ok edges) :
    e ∈ edges ↔ ∃ op, (v.off = true → op = .exit) ∧ v.edge? ids op = some e := by
  rw [fixedEdges] at offered
  split at offered
  case isFalse => cases offered
  cases offered
  rw [List.mem_filterMap]
  refine exists_congr fun op => ?_
  have listed : op ∈ VaultOp.all := by cases op <;> decide
  rw [Option.ite_none_left_eq_some, and_iff_right listed]
  refine and_congr_left fun _ => ?_
  cases v.off <;> simp [VaultOp.allowedWhenCaged]

theorem vaultOp?_of_edge? (edge : v.edge? ids op = some e) : e.vaultOp? = some op := by
  have key := key_of_edge? edge
  rw [Edge.key] at key
  rw [Edge.vaultOp?]
  cases terms : e.terms with
  | fixedPrice op' price capacity =>
      simp only [terms] at key ⊢
      exact congrArg some (EdgeKey.vault.inj key)
  | order id pay buy =>
      simp only [terms] at key
      cases key

/-- An operation is offered exactly if the vault may do it and has an edge for it. -/
theorem exists_mem_fixedEdges_iff (offered : v.fixedEdges ids = .ok edges) (op : VaultOp) :
    (∃ e ∈ edges, e.vaultOp? = some op) ↔
      (v.off = true → op = .exit) ∧ ∃ e, v.edge? ids op = some e := by
  constructor
  · rintro ⟨e, listed, same⟩
    obtain ⟨op', allowed, edge⟩ := (mem_fixedEdges_iff offered).mp listed
    obtain rfl := Option.some.inj ((vaultOp?_of_edge? edge).symm.trans same)
    exact ⟨allowed, e, edge⟩
  · rintro ⟨allowed, e, edge⟩
    exact ⟨e, (mem_fixedEdges_iff offered).mpr ⟨op, allowed, edge⟩, vaultOp?_of_edge? edge⟩

theorem nodup_vaultOp?_fixedEdges (offered : v.fixedEdges ids = .ok edges) :
    (edges.map Edge.vaultOp?).Nodup := by
  refine List.pairwise_map.mpr (List.Pairwise.imp_of_mem ?_
    (List.pairwise_map.mp (nodup_key_fixedEdges offered)))
  intro e f listed_e listed_f different same
  obtain ⟨op, -, edge_e⟩ := (mem_fixedEdges_iff offered).mp listed_e
  obtain ⟨op', -, edge_f⟩ := (mem_fixedEdges_iff offered).mp listed_f
  rw [vaultOp?_of_edge? edge_e, vaultOp?_of_edge? edge_f] at same
  rw [key_of_edge? edge_e, key_of_edge? edge_f, Option.some.inj same] at different
  exact different rfl

theorem does_of_edge? (edge : v.edge? ids op = some e) {x : Wad} (admitted : e.admits x = true) :
    v.Does x (e.output x) op := by
  cases op with
  | join => exact join_cost_le edge x
  | exit => exact exit_gain_ge edge x
  | boom =>
      obtain ⟨spread, same, gain, covered⟩ := boom_gain_eq edge admitted
      refine ⟨?_, covered⟩
      rw [gain, ← raw_tag_mul_spread same]
      rfl
  | bust =>
      obtain ⟨cost, sold, owed⟩ := bust_cost_le edge admitted
      exact ⟨sold, cost, owed⟩

theorem keeps_of_edge? (allowed : v.off = true → op = .exit) (edge : v.edge? ids op = some e) :
    v.Keeps op e := by
  refine ⟨?_, allowed, ?_, fun x => does_of_edge? edge⟩
  · cases op with
    | join =>
        obtain ⟨price, -, -, nonzero, rfl⟩ := join_edge?_iff.mp edge
        exact ⟨price, _, rfl, nonzero, nofun⟩
    | exit =>
        obtain ⟨price, -, nonzero, rfl⟩ := exit_edge?_iff.mp edge
        exact ⟨price, _, rfl, nonzero, nofun⟩
    | boom =>
        obtain ⟨_, capacity, -, nonzero, -, some, rfl⟩ := boom_edge?_iff.mp edge
        exact ⟨_, _, rfl, nonzero, by simpa [Capacity.limit?] using some⟩
    | bust =>
        obtain ⟨price, _, capacity, -, -, nonzero, -, -, some, rfl⟩ := bust_edge?_iff.mp edge
        exact ⟨price, _, rfl, nonzero, by simpa [Capacity.limit?] using some⟩
  · rintro rfl
    exact gap_lt_of_bid_ne_zero (exists_boom_edge_iff.mp ⟨e, edge⟩).1

/-- A vault whose feed is live and not zero has edges, no two of one operation, and keeps every one
of them: what it charges, pays and has is never less good than what the edge states. It offers boom
and bust whenever it is not caged and neither price nor capacity rounds to zero. -/
theorem fixedEdges_keep (live : v.feed.live = true) (value : v.feed.value.raw ≠ 0)
    (ids : VaultAssets) :
    ∃ edges, v.fixedEdges ids = .ok edges ∧
      (∀ e ∈ edges, ∃ op, v.Keeps op e) ∧ (edges.map Edge.vaultOp?).Nodup ∧
      ((∃ e ∈ edges, e.vaultOp? = some .boom) ↔
        v.off = false ∧ v.bid ≠ 0 ∧ v.joy.raw * 10 ^ 18 / v.bid ≠ 0) ∧
      ((∃ e ∈ edges, e.vaultOp? = some .bust) ↔
        v.off = false ∧ v.ask ≠ 0 ∧ 10 ^ 36 / v.ask ≠ 0 ∧
          Nat.min (v.woe.raw * 10 ^ 18 / v.ask) v.fog.raw ≠ 0) := by
  obtain ⟨edges, offered⟩ : ∃ edges, v.fixedEdges ids = .ok edges :=
    ⟨_, if_pos (Feed.isUsable_iff.mpr ⟨live, value⟩)⟩
  refine ⟨edges, offered, ?_, nodup_vaultOp?_fixedEdges offered, ?_, ?_⟩
  · intro e listed
    obtain ⟨op, allowed, edge⟩ := (mem_fixedEdges_iff offered).mp listed
    exact ⟨op, keeps_of_edge? allowed edge⟩
  · rw [exists_mem_fixedEdges_iff offered, exists_boom_edge_iff]
    simp
  · rw [exists_mem_fixedEdges_iff offered, exists_bust_edge_iff]
    simp

/-- Prices that no decimal number tells exactly, so that every edge has to round. -/
def thirds : Vault where
  per := ⟨4 * 10 ^ 27 / 3⟩
  tag := ⟨1000 * 10 ^ 18 / 3⟩
  gap := ⟨103 * 10 ^ 16⟩
  joy := .ofUnits 950
  woe := .ofUnits 1050
  fog := .ofUnits 7
  off := false
  feed := ⟨.one, true⟩

def thirdsBust : Edge :=
  ⟨2, 1, .fixedPrice .bust ⟨2912621359223300⟩ (.output ⟨3058252427184466019⟩)⟩

/-- The edge admits a little more than there is debt to cover. What it states for it costs less, and
the debt suffices. -/
theorem fixedEdges_keep_thirds :
    thirds.feed.live = true ∧ thirds.feed.value.raw ≠ 0 ∧
      ∃ edges, thirds.fixedEdges ⟨0, 1, 2⟩ = .ok edges ∧ thirdsBust ∈ edges ∧
        (∃ e ∈ edges, e.vaultOp? = some .boom) ∧
        thirds.woe.raw < 1050000000000000349856 ∧
        thirdsBust.admits ⟨1050000000000000349856⟩ = true ∧
        thirdsBust.output ⟨1050000000000000349856⟩ = ⟨3058252427184466018⟩ ∧
        thirds.Does ⟨1050000000000000349856⟩ ⟨3058252427184466018⟩ .bust := by
  obtain ⟨edges, offered, keeps, -, boom, -⟩ :=
    @fixedEdges_keep thirds (by decide) (by decide) ⟨0, 1, 2⟩
  have listed : thirdsBust ∈ edges :=
    (mem_fixedEdges_iff offered).mpr ⟨.bust, by decide, by decide⟩
  have admitted : thirdsBust.admits ⟨1050000000000000349856⟩ = true := by decide
  obtain ⟨op, kept⟩ := keeps _ listed
  obtain ⟨_, _, same, -⟩ := kept.terms
  cases same
  exact ⟨by decide, by decide, edges, offered, listed, boom.mpr (by decide), by decide, admitted,
    by decide, kept.does _ admitted⟩

end Vault

end Arbitrage
