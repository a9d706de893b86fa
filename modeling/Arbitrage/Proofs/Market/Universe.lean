import Arbitrage.Proofs.Cycle.Pruning
import Arbitrage.Proofs.Market.Arrival

/-!
# What can be traded at one block

`Trades` says, without a graph, which edge a resting order is: a live order between two different
vault tokens turns the one that it buys into the one that it pays. The graph of all these edges and
of those of the vault can be built unless two orders have one number, which is the only way in which
a repeated key can come about (`exists_tokenGraph_iff`).

A snapshot keeps the orders within reach of the base, and nothing is lost by it: the cycles at the
base are those of the graph of all edges (`take_universe`).
-/

namespace Arbitrage

namespace Graph

variable {g g' : Graph} {edge : Edge} {edges : List Edge}

theorem Joins.of_addEdge {e : Edge} {id : EdgeId} (joins : g.Joins e)
    (added : g.addEdge edge = .ok (id, g')) : g'.Joins e := by
  obtain ⟨-, -, rfl⟩ := addEdge_eq_ok_iff.mp added
  exact ⟨joins.source_lt, joins.target_lt, joins.source_ne_target⟩

/-- Edges between different assets can all be added if no key is met twice. -/
theorem exists_addEdges (joins : ∀ e ∈ edges, g.Joins e)
    (fresh : (g.edges.toList.map Edge.key ++ edges.map Edge.key).Nodup) :
    ∃ g', g.addEdges edges = .ok g' := by
  induction edges generalizing g with
  | nil => exact ⟨g, rfl⟩
  | cons edge edges ih =>
      obtain ⟨first, others⟩ := List.forall_mem_cons.mp joins
      have new : edge.key ∉ g.edges.toList.map Edge.key := by
        intro old
        exact (List.nodup_append.mp fresh).2.2 _ old _ List.mem_cons_self rfl
      have added := addEdge_eq_ok_iff.mpr
        ⟨⟨first.source_lt, first.target_lt, first.source_ne_target, new⟩, rfl, rfl⟩
      rw [addEdges, added]
      refine ih (fun e listed => (others e listed).of_addEdge added) ?_
      simpa using fresh

/-- Edges between different assets are refused for nothing but a key that is met again. -/
theorem exists_duplicate (joins : ∀ e ∈ edges, g.Joins e) {error : GraphError}
    (failed : g.addEdges edges = .error error) :
    ∃ key : EdgeKey, error = .duplicateEdge key.text := by
  induction edges generalizing g with
  | nil => cases failed
  | cons edge edges ih =>
      obtain ⟨first, others⟩ := List.forall_mem_cons.mp joins
      cases added : g.addEdge edge with
      | error e =>
          simp only [addEdges, added] at failed
          cases failed
          exact ⟨edge.key, ((addEdge_eq_error_iff first).mp added).2⟩
      | ok result =>
          simp only [addEdges, added] at failed
          exact ih (fun e listed => (others e listed).of_addEdge added) failed

end Graph

namespace Snapshot

variable {tokens : Tokens} {orders : List Order} {state : MarketState} {strategy : Strategy}

/-- An edge is what a resting order offers to a taker: the order is live, and the taker turns the
token that it buys into another vault token, the one that it pays. -/
structure Trades (tokens : Tokens) (order : Order) (e : Edge) : Prop where
  pay_ne_zero : order.pay.raw ≠ 0
  buy_ne_zero : order.buy.raw ≠ 0
  source : (tokens.assets[e.source]?).map Asset.address = some order.buyToken
  target : (tokens.assets[e.target]?).map Asset.address = some order.payToken
  different : order.buyToken ≠ order.payToken
  terms : e.terms = .order order.id order.pay order.buy

theorem Trades.key_eq {order : Order} {e : Edge} (trades : Trades tokens order e) :
    e.key = .order order.id := by
  rw [Edge.key, trades.terms]

theorem trades_iff (distinct : tokens.Distinct) {order : Order} {e : Edge} :
    Trades tokens order e ↔ order.isLive = true ∧ orderEdge? tokens order = some e := by
  rw [Order.isLive_iff, orderEdge?_eq_some_iff]
  constructor
  · rintro ⟨pay, buy, source, target, different, terms⟩
    refine ⟨⟨pay, buy⟩, e.source, e.target, (Tokens.index?_eq_some_iff distinct).mpr source,
      (Tokens.index?_eq_some_iff distinct).mpr target, ?_, ?_⟩
    · intro same
      rw [same] at source
      exact different (Option.some.inj (source.symm.trans target))
    · rw [← terms]
  · rintro ⟨⟨pay, buy⟩, source, target, at_source, at_target, different, rfl⟩
    refine ⟨pay, buy, (Tokens.index?_eq_some_iff distinct).mp at_source,
      (Tokens.index?_eq_some_iff distinct).mp at_target, ?_, rfl⟩
    intro same
    rw [same] at at_source
    exact different (Option.some.inj (at_source.symm.trans at_target))

/-- Two live orders between different vault tokens have one number: all that can be wrong with a
book. -/
def Clash (tokens : Tokens) (orders : List Order) : Prop :=
  ∃ a b e f, [a, b].Sublist orders ∧ Trades tokens a e ∧ Trades tokens b f ∧ a.id = b.id

/-- The edges of some orders are those with a property, by number and no two of one number. -/
structure Lists (tokens : Tokens) (orders : List Order) (P : Edge → Prop) (edges : List Edge) :
    Prop where
  increasing : edges.Pairwise fun e f => e.key.number < f.key.number
  mem_iff : ∀ e, e ∈ edges ↔ P e ∧ ∃ order ∈ orders, Trades tokens order e

section OrderEdges

theorem orderEdges_perm_filterMap (tokens : Tokens) (orders : List Order) :
    (orderEdges tokens orders).Perm
      (orders.filterMap fun order => if order.isLive then orderEdge? tokens order else none) := by
  rw [← List.filterMap_filter]
  exact (List.mergeSort_perm _ _).filterMap _

theorem mem_orderEdges_iff (distinct : tokens.Distinct) {e : Edge} :
    e ∈ orderEdges tokens orders ↔ ∃ order ∈ orders, Trades tokens order e := by
  rw [(orderEdges_perm_filterMap tokens orders).mem_iff, List.mem_filterMap]
  simp only [Option.ite_none_right_eq_some, trades_iff distinct]

/-- No key is repeated among the orders' edges unless two of them have one number. -/
theorem nodup_key_orderEdges_iff (distinct : tokens.Distinct) :
    ((orderEdges tokens orders).map Edge.key).Nodup ↔ ¬ Clash tokens orders := by
  rw [((orderEdges_perm_filterMap tokens orders).map Edge.key).nodup_iff, List.Nodup,
    List.pairwise_map, List.pairwise_filterMap, List.pairwise_iff_forall_sublist]
  simp only [Option.ite_none_right_eq_some, ← trades_iff distinct]
  constructor
  · rintro apart ⟨a, b, e, f, both, edge_a, edge_b, same⟩
    refine apart both e edge_a f edge_b ?_
    rw [edge_a.key_eq, edge_b.key_eq, same]
  · intro none a b both e edge_a f edge_b same
    rw [edge_a.key_eq, edge_b.key_eq] at same
    exact none ⟨a, b, e, f, both, edge_a, edge_b, EdgeKey.order.inj same⟩

theorem lists_orderEdges (distinct : tokens.Distinct)
    (apart : ((orderEdges tokens orders).map Edge.key).Nodup) :
    Lists tokens orders (fun _ => True) (orderEdges tokens orders) := by
  constructor
  · refine List.Pairwise.imp_of_mem ?_
      ((pairwise_orderEdges tokens orders).and (List.pairwise_map.mp apart))
    rintro e f he hf ⟨le, different⟩
    exact Nat.lt_of_le_of_ne le fun same => different (key_eq_of_number_eq he hf same)
  · intro e
    rw [mem_orderEdges_iff distinct, true_and]

theorem Lists.filter {edges : List Edge} (all : Lists tokens orders (fun _ => True) edges)
    {P : Edge → Prop} {p : Edge → Bool} (same : ∀ e, p e = true ↔ P e) :
    Lists tokens orders P (edges.filter p) := by
  refine ⟨all.increasing.filter p, ?_⟩
  intro e
  rw [List.mem_filter, all.mem_iff, true_and, same, and_comm]

end OrderEdges

section Build

variable {v : Vault} {fixed edges : List Edge}

/-- The graph of the vault's edges and of some of the orders' can be built if the orders' keys are
distinct. -/
theorem exists_tokenGraph_iff (distinct : tokens.Distinct)
    (offered : v.fixedEdges vaultAssets = .ok fixed)
    (among : edges.Sublist (orderEdges tokens orders)) :
    (∃ g, tokenGraph tokens (fixed ++ edges) = .ok g) ↔ (edges.map Edge.key).Nodup := by
  simp only [tokenGraph_eq_ok_iff]
  constructor
  · rintro ⟨g, built⟩
    have keys := (Graph.Built.of_build built).wellFormed.keys
    rw [(Graph.build_eq_ok distinct.nodup built).2, List.map_append] at keys
    exact (List.nodup_append.mp keys).2.1
  · intro apart
    refine Graph.exists_addEdges ?_ ?_
    · intro e listed
      exact joins_of_mem distinct offered (((List.Sublist.refl fixed).append among).subset listed)
    · rw [Graph.edges_addAssets, List.map_append]
      show (List.map Edge.key fixed ++ List.map Edge.key edges).Nodup
      refine List.nodup_append.mpr ⟨Vault.nodup_key_fixedEdges offered, apart, ?_⟩
      intro k fixed_key l order_key
      obtain ⟨e, listed, rfl⟩ := List.mem_map.mp fixed_key
      obtain ⟨f, listed', rfl⟩ := List.mem_map.mp order_key
      obtain ⟨op, edge⟩ := Vault.mem_fixedEdges offered listed
      obtain ⟨id, key⟩ := exists_key_of_mem_orderEdges (among.subset listed')
      rw [Vault.key_of_edge? edge, key]
      simp

theorem exists_duplicate_of_tokenGraph (distinct : tokens.Distinct)
    (offered : v.fixedEdges vaultAssets = .ok fixed) {error : MarketError}
    (failed : tokenGraph tokens (fixed ++ orderEdges tokens orders) = .error error) :
    ∃ key : EdgeKey, error = .graph (.duplicateEdge key.text) := by
  rw [tokenGraph] at failed
  cases built : Graph.build tokens.assets (fixed ++ orderEdges tokens orders) with
  | ok g =>
      rw [built] at failed
      cases failed
  | error e =>
      rw [built] at failed
      cases failed
      obtain ⟨key, rfl⟩ := Graph.exists_duplicate (fun _ => joins_of_mem distinct offered) built
      exact ⟨key, rfl⟩

/-- In a graph of the vault tokens each has its own number. -/
theorem find?_of_tokenGraph (distinct : tokens.Distinct) {g : Graph}
    (built : tokenGraph tokens edges = .ok g) (token : Address) :
    g.find? token = tokens.index? token := by
  have assets : g.assets = tokens.assets.toArray := by
    rw [← (Graph.build_eq_ok distinct.nodup (tokenGraph_eq_ok_iff.mp built)).1]
  rw [Graph.find?, assets, List.findIdx?_toArray, Tokens.assets, List.findIdx?_map, Tokens.index?]
  rfl

end Build

section Take

variable {fixed : List Edge} {candidate : Graph}

theorem take_of_stale (known : tokens.contains strategy.base = true)
    (stale : state.vault.feed.isUsable = false) :
    take state strategy tokens = .error .staleFeed := by
  rw [take, if_pos known, Vault.fixedEdges, stale]
  rfl

theorem fixedEdges_of_usable {v : Vault} (usable : v.feed.isUsable = true) :
    ∃ fixed, v.fixedEdges vaultAssets = .ok fixed := by
  rw [Vault.fixedEdges, if_pos usable]
  exact ⟨_, rfl⟩

theorem take_of_refused (known : tokens.contains strategy.base = true)
    (offered : state.vault.fixedEdges vaultAssets = .ok fixed) {error : MarketError}
    (failed : tokenGraph tokens (fixed ++ orderEdges tokens state.orders) = .error error) :
    take state strategy tokens = .error error := by
  rw [take, if_pos known, offered]
  show tokenGraph tokens (fixed ++ orderEdges tokens state.orders) >>= _ = _
  rw [failed]
  rfl

/-- Once the graph of all edges can be built, there is a snapshot. -/
theorem exists_take (distinct : tokens.Distinct) (known : tokens.contains strategy.base = true)
    (offered : state.vault.fixedEdges vaultAssets = .ok fixed)
    (built : tokenGraph tokens (fixed ++ orderEdges tokens state.orders) = .ok candidate) :
    ∃ s, take state strategy tokens = .ok s := by
  obtain ⟨base, at_base⟩ : ∃ base, tokens.index? strategy.base = some base := by
    rw [← Option.isSome_iff_exists, Tokens.index?, List.findIdx?_isSome]
    exact known
  have apart := (exists_tokenGraph_iff distinct offered (List.Sublist.refl _)).mp ⟨candidate, built⟩
  let kept := (orderEdges tokens state.orders).filter fun e =>
    (candidate.reachableWithin base strategy.maxDepth).contains e.source &&
      (candidate.reachableWithin base strategy.maxDepth).contains e.target
  have among : kept.Sublist (orderEdges tokens state.orders) := List.filter_sublist
  obtain ⟨graph, rebuilt⟩ := (exists_tokenGraph_iff distinct offered among).mpr
    (apart.sublist (among.map Edge.key))
  exact ⟨⟨state.block, graph, base, state.balance⟩, take_eq_ok_iff.mpr ⟨known, fixed, candidate,
    offered, built, (find?_of_tokenGraph distinct built _).trans at_base, rebuilt, rfl, rfl⟩⟩

/-- With a usable feed there is a snapshot, or else two orders clash. -/
theorem take_or_clash (distinct : tokens.Distinct) (known : tokens.contains strategy.base = true)
    (usable : state.vault.feed.isUsable = true) :
    (∃ s, take state strategy tokens = .ok s) ∧ ¬ Clash tokens state.orders ∨
      (∃ key : EdgeKey, take state strategy tokens =
        .error (.graph (.duplicateEdge key.text))) ∧ Clash tokens state.orders := by
  obtain ⟨fixed, offered⟩ := fixedEdges_of_usable usable
  have buildable : (∃ g, tokenGraph tokens (fixed ++ orderEdges tokens state.orders) = .ok g) ↔
      ¬ Clash tokens state.orders :=
    (exists_tokenGraph_iff distinct offered (List.Sublist.refl _)).trans
      (nodup_key_orderEdges_iff distinct)
  cases built : tokenGraph tokens (fixed ++ orderEdges tokens state.orders) with
  | error e =>
      obtain ⟨key, rfl⟩ := exists_duplicate_of_tokenGraph distinct offered built
      refine .inr ⟨⟨key, take_of_refused known offered built⟩, ?_⟩
      by_contra none
      obtain ⟨g, built'⟩ := buildable.mpr none
      exact nomatch built.symm.trans built'
  | ok whole =>
      exact .inl ⟨exists_take distinct known offered built, buildable.mp ⟨whole, built⟩⟩

/-- What a snapshot keeps, and that its cycles are those of the graph of all edges. -/
theorem kept_of_take (distinct : tokens.Distinct) {s : Snapshot}
    (taken : take state strategy tokens = .ok s) :
    ∃ fixed kept whole, state.vault.fixedEdges vaultAssets = .ok fixed ∧
      Graph.build tokens.assets (fixed ++ orderEdges tokens state.orders) = .ok whole ∧
      tokens.index? strategy.base = some s.base ∧
      s.graph.assets.toList = tokens.assets ∧ s.graph.edges.toList = fixed ++ kept ∧
      Lists tokens state.orders (fun e => whole.Reaches strategy.maxDepth s.base e.source ∧
        whole.Reaches strategy.maxDepth s.base e.target) kept ∧
      (s.graph.cycles s.base strategy.maxDepth).map s.graph.keysAlong =
        (whole.cycles s.base strategy.maxDepth).map whole.keysAlong := by
  obtain ⟨known, fixed, whole, offered, built, found, rebuilt, -, -⟩ := take_eq_ok_iff.mp taken
  have apart := (exists_tokenGraph_iff distinct offered (List.Sublist.refl _)).mp ⟨whole, built⟩
  have at_base := (find?_of_tokenGraph distinct built strategy.base).symm.trans found
  rw [tokenGraph_eq_ok_iff] at built rebuilt
  have wf := (Graph.Built.of_build built).wellFormed
  obtain ⟨assets, edges⟩ := Graph.build_eq_ok distinct.nodup built
  obtain ⟨assets', edges'⟩ := Graph.build_eq_ok distinct.nodup rebuilt
  have base_lt : s.base < whole.assets.size := (Array.findIdx?_eq_some_iff_getElem.mp found).1
  have reached : ∀ e : Edge, ((whole.reachableWithin s.base strategy.maxDepth).contains e.source &&
      (whole.reachableWithin s.base strategy.maxDepth).contains e.target) = true ↔
      whole.Reaches strategy.maxDepth s.base e.source ∧
        whole.Reaches strategy.maxDepth s.base e.target := by
    intro e
    simp only [Bool.and_eq_true, List.contains_iff_mem, Graph.mem_reachableWithin_iff wf, base_lt,
      true_and]
  refine ⟨fixed, _, whole, offered, built, at_base, assets', edges',
    (lists_orderEdges distinct apart).filter reached, ?_⟩
  refine Graph.map_keysAlong_cycles wf (Graph.Built.of_build rebuilt).wellFormed ?_ ?_ ?_
  · exact Array.toList_inj.mp (assets'.trans assets.symm)
  · rw [edges, edges']
    exact (List.Sublist.refl fixed).append List.filter_sublist
  · intro e listed source target
    rw [← Array.mem_toList_iff, edges, List.mem_append] at listed
    rw [← Array.mem_toList_iff, edges', List.mem_append]
    refine listed.imp_right fun order_edge => ?_
    exact List.mem_filter.mpr ⟨order_edge, (reached e).mpr ⟨source, target⟩⟩

end Take

/-- A snapshot fails exactly for a feed that is not live or reads zero, and else for two live orders
between different vault tokens that have one number. It holds the edges of the vault and behind
them, by number, the edge of each live order between two different vault tokens that are both within
`maxDepth` edges of the base in the graph of all such edges; and its cycles at the base go through
the same markets, in the same order, as those of the graph of all edges. -/
theorem take_universe (distinct : tokens.Distinct) (known : tokens.contains strategy.base = true) :
    (take state strategy tokens = .error .staleFeed ↔
      ¬ (state.vault.feed.live = true ∧ state.vault.feed.value.raw ≠ 0)) ∧
    (state.vault.feed.live = true ∧ state.vault.feed.value.raw ≠ 0 →
      ((∃ key : EdgeKey, take state strategy tokens = .error (.graph (.duplicateEdge key.text))) ↔
        Clash tokens state.orders) ∧
      ((∃ s, take state strategy tokens = .ok s) ↔ ¬ Clash tokens state.orders)) ∧
    ∀ s, take state strategy tokens = .ok s → ∃ fixed offered kept whole,
      state.vault.fixedEdges vaultAssets = .ok fixed ∧
      Lists tokens state.orders (fun _ => True) offered ∧
      Graph.build tokens.assets (fixed ++ offered) = .ok whole ∧
      (tokens.assets[s.base]?).map Asset.address = some strategy.base ∧
      s.graph.assets.toList = tokens.assets ∧ s.graph.edges.toList = fixed ++ kept ∧
      Lists tokens state.orders (fun e => whole.Reaches strategy.maxDepth s.base e.source ∧
        whole.Reaches strategy.maxDepth s.base e.target) kept ∧
      (s.graph.cycles s.base strategy.maxDepth).map s.graph.keysAlong =
        (whole.cycles s.base strategy.maxDepth).map whole.keysAlong := by
  rw [← Feed.isUsable_iff]
  refine ⟨?_, ?_, ?_⟩
  · constructor
    · intro stale usable
      obtain ⟨⟨s, taken⟩, -⟩ | ⟨⟨key, refused⟩, -⟩ := take_or_clash distinct known usable
      · exact nomatch stale.symm.trans taken
      · exact nomatch stale.symm.trans refused
    · intro stale
      exact take_of_stale known (Bool.eq_false_of_not_eq_true stale)
  · intro usable
    obtain ⟨⟨s, taken⟩, none⟩ | ⟨⟨key, refused⟩, clash⟩ := take_or_clash distinct known usable
    · exact ⟨iff_of_false (fun ⟨key, refused⟩ => nomatch refused.symm.trans taken) none,
        iff_of_true ⟨s, taken⟩ none⟩
    · exact ⟨iff_of_true ⟨key, refused⟩ clash,
        iff_of_false (fun ⟨s, taken⟩ => nomatch refused.symm.trans taken) (not_not_intro clash)⟩
  · intro s taken
    obtain ⟨fixed, kept, whole, offered, built, base, assets, edges, lists, cycles⟩ :=
      kept_of_take distinct taken
    have apart := (exists_tokenGraph_iff distinct offered (List.Sublist.refl _)).mp
      ⟨whole, tokenGraph_eq_ok_iff.mpr built⟩
    exact ⟨fixed, _, kept, whole, offered, lists_orderEdges distinct apart, built,
      (Tokens.index?_eq_some_iff distinct).mp base, assets, edges, lists, cycles⟩

end Snapshot

namespace Scenario

/-- A caged vault, which turns skr into gem and does nothing else. -/
def cagedVault : Vault := { vault with off := true }

/-- An order that asks sai, which nothing else leads to, one that asks gem, a dead one, and one that
pays a token that is not traded. -/
def outOfReach : List Order := [
  ⟨.ofNat 1, tokens.skr, .ofUnits 2, tokens.sai, .ofUnits 1, maker⟩,
  ⟨.ofNat 2, tokens.skr, .ofUnits 110, tokens.gem, .ofUnits 100, maker⟩,
  ⟨.ofNat 2, tokens.skr, .zero, tokens.gem, .ofUnits 100, maker⟩,
  ⟨.ofNat 2, maker, .ofUnits 1, tokens.gem, .ofUnits 1, maker⟩]

end Scenario

namespace Snapshot

open Scenario

def outOfReachState : MarketState := ⟨1, cagedVault, outOfReach, .ofUnits 1000⟩

def gemStrategy : Strategy := ⟨Scenario.tokens.gem, .one, .ofUnits 100, 3, false⟩

/-- The edges of the two orders that can be traded. -/
def saiOrderEdge : Edge := ⟨2, 1, .order (.ofNat 1) (.ofUnits 2) (.ofUnits 1)⟩

def gemOrderEdge : Edge := ⟨0, 1, .order (.ofNat 2) (.ofUnits 110) (.ofUnits 100)⟩

def outOfReachSnapshot : Snapshot where
  block := 1
  graph := {
    assets := Scenario.tokens.assets.toArray
    edges := #[⟨1, 0, .fixedPrice .exit .one .unbounded⟩, gemOrderEdge]
    leaving := #[[1], [0], []] }
  base := 0
  balance := .ofUnits 1000

/-- The order that asks sai is left out, and the cycle through the other one is found regardless. -/
theorem take_universe_outOfReach :
    Scenario.tokens.Distinct ∧ Scenario.tokens.contains gemStrategy.base = true ∧
      ¬ Clash Scenario.tokens outOfReach ∧
      take outOfReachState gemStrategy Scenario.tokens = .ok outOfReachSnapshot ∧
      saiOrderEdge ∉ outOfReachSnapshot.graph.edges ∧ ∃ whole : Graph, saiOrderEdge ∈ whole.edges ∧
        (whole.cycles 0 3).map whole.keysAlong =
          [[some (.order (.ofNat 2)), some (.vault .exit)]] := by
  have distinct : Scenario.tokens.Distinct := ⟨by decide, by decide, by decide⟩
  have known : Scenario.tokens.contains gemStrategy.base = true := by decide
  have listed :
      orderEdges Scenario.tokens outOfReachState.orders = [saiOrderEdge, gemOrderEdge] := by
    rw [orderEdges, List.mergeSort_of_pairwise (by decide)]
    decide
  have taken : take outOfReachState gemStrategy Scenario.tokens = .ok outOfReachSnapshot := by
    rw [take, listed]
    decide +kernel
  obtain ⟨-, unless_clash, holds⟩ :=
    @take_universe Scenario.tokens outOfReachState gemStrategy distinct known
  have usable : cagedVault.feed.live = true ∧ cagedVault.feed.value.raw ≠ 0 := by decide
  obtain ⟨_, offered, _, whole, -, all, built, -, -, -, -, same⟩ := holds _ taken
  have edges := (Graph.build_eq_ok distinct.nodup built).2
  have there : saiOrderEdge ∈ offered := by
    refine (all.mem_iff _).mpr ⟨trivial, _, List.mem_cons_self, ?_⟩
    exact ⟨by decide, by decide, by decide, by decide, by decide, rfl⟩
  refine ⟨distinct, known, (unless_clash usable).2.mp ⟨_, taken⟩, taken, by decide +kernel, whole,
    ?_, ?_⟩
  · rw [← Array.mem_toList_iff, edges]
    exact List.mem_append_right _ there
  · refine same.symm.trans ?_
    decide

end Snapshot

end Arbitrage
