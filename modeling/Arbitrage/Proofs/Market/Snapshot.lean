import Arbitrage.Market.Snapshot
import Arbitrage.Proofs.Market.Graph
import Arbitrage.Proofs.Market.Token
import Arbitrage.Proofs.Market.Vault

/-!
# What a snapshot holds

The graph of a snapshot has the three vault tokens for its assets and, for its edges, those of the
vault and of live orders. So each of its edges is offered by the ledger that was read
(`offers_of_take`), and its base is the number of the base asset.
-/

namespace Arbitrage

namespace Graph

variable {g g' : Graph}

/-- Assets with new addresses are entered as they come, each under the next number. -/
theorem assets_addAssets {assets : List Asset}
    (fresh : ((g.assets.toList ++ assets).map Asset.address).Nodup) :
    (g.addAssets assets).assets.toList = g.assets.toList ++ assets := by
  induction assets generalizing g with
  | nil => simp [addAssets]
  | cons asset assets ih =>
      have absent : g.find? asset.address = none := by
        rw [find?_eq_none_iff]
        rw [List.map_append, List.map_cons] at fresh
        intro listed
        exact (List.nodup_append.mp fresh).2.2 _ listed _ List.mem_cons_self rfl
      have entered : (g.addAsset asset).2.assets.toList = g.assets.toList ++ [asset] := by
        simp [addAsset, absent]
      have later := ih (g := (g.addAsset asset).2) (by simpa [entered] using fresh)
      rw [entered, List.append_assoc] at later
      exact later

/-- Edges that can all be added are listed as they come. -/
theorem addEdges_eq_ok {edges : List Edge} (added : g.addEdges edges = .ok g') :
    g'.assets = g.assets ∧ g'.edges.toList = g.edges.toList ++ edges := by
  induction edges generalizing g with
  | nil =>
      cases added
      simp
  | cons edge edges ih =>
      cases first : g.addEdge edge with
      | error e => simp [addEdges, first] at added
      | ok result =>
          simp only [addEdges, first] at added
          obtain ⟨-, -, same⟩ := addEdge_eq_ok_iff.mp first
          obtain ⟨assets, listed⟩ := ih added
          rw [same] at assets listed
          exact ⟨assets, by simpa using listed⟩

theorem edges_addAssets (g : Graph) (assets : List Asset) : (g.addAssets assets).edges = g.edges := by
  induction assets generalizing g with
  | nil => rfl
  | cons asset assets ih =>
      have first : (g.addAsset asset).2.edges = g.edges := by
        rw [addAsset]
        split <;> rfl
      rw [← first]
      exact ih _

theorem build_eq_ok {assets : List Asset} {edges : List Edge}
    (distinct : (assets.map Asset.address).Nodup) (built : build assets edges = .ok g) :
    g.assets.toList = assets ∧ g.edges.toList = edges := by
  obtain ⟨same, listed⟩ := addEdges_eq_ok built
  have entered : (empty.addAssets assets).assets.toList = empty.assets.toList ++ assets :=
    assets_addAssets (by simpa [empty] using distinct)
  rw [edges_addAssets] at listed
  rw [same]
  exact ⟨by simpa [empty] using entered, by simpa [empty] using listed⟩

end Graph

/-- An edge of the vault has the key of its operation. -/
theorem Vault.key_of_edge? {v : Vault} {ids : VaultAssets} {op : VaultOp} {e : Edge}
    (offered : v.edge? ids op = some e) : e.key = .vault op := by
  cases op with
  | join => obtain ⟨_, -, -, -, rfl⟩ := join_edge?_iff.mp offered; rfl
  | exit => obtain ⟨_, -, -, rfl⟩ := exit_edge?_iff.mp offered; rfl
  | boom => obtain ⟨_, _, -, -, -, -, rfl⟩ := boom_edge?_iff.mp offered; rfl
  | bust => obtain ⟨_, _, _, -, -, -, -, -, -, rfl⟩ := bust_edge?_iff.mp offered; rfl

theorem Vault.mem_fixedEdges {v : Vault} {ids : VaultAssets} {edges : List Edge} {e : Edge}
    (fixed : v.fixedEdges ids = .ok edges) (listed : e ∈ edges) : ∃ op, v.edge? ids op = some e := by
  unfold fixedEdges at fixed
  split at fixed
  · cases fixed
    obtain ⟨op, -, offered⟩ := List.mem_filterMap.mp listed
    simp only [Option.ite_none_left_eq_some] at offered
    exact ⟨op, offered.2⟩
  · cases fixed

theorem Vault.nodup_key_fixedEdges {v : Vault} {ids : VaultAssets} {edges : List Edge}
    (fixed : v.fixedEdges ids = .ok edges) : (edges.map Edge.key).Nodup := by
  rw [fixedEdges] at fixed
  split at fixed
  case isFalse => cases fixed
  cases fixed
  have each : VaultOp.all.Pairwise (· ≠ ·) := by decide
  rw [List.Nodup, List.pairwise_map, List.pairwise_filterMap]
  refine each.imp fun {op op'} different => ?_
  intro e he e' he' same
  simp only [Option.ite_none_left_eq_some] at he he'
  rw [key_of_edge? he.2, key_of_edge? he'.2] at same
  exact different (EdgeKey.vault.inj same)

theorem exists_of_bind_eq_ok {ε α β : Type} {x : Except ε α} {f : α → Except ε β} {b : β}
    (done : x >>= f = .ok b) : ∃ a, x = .ok a ∧ f a = .ok b := by
  cases x with
  | error e => cases done
  | ok a => exact ⟨a, rfl, done⟩

namespace Snapshot

variable {state : MarketState} {strategy : Strategy} {tokens : Tokens} {s : Snapshot}

theorem tokenGraph_eq_ok_iff {edges : List Edge} {g : Graph} :
    tokenGraph tokens edges = .ok g ↔ Graph.build tokens.assets edges = .ok g := by
  rw [tokenGraph]
  cases Graph.build tokens.assets edges with
  | error e => exact ⟨nofun, nofun⟩
  | ok built =>
      constructor
      · rintro ⟨⟩
        rfl
      · rintro ⟨⟩
        rfl

theorem mem_orderEdges {orders : List Order} {e : Edge} (listed : e ∈ orderEdges tokens orders) :
    ∃ order ∈ orders, order.isLive = true ∧ orderEdge? tokens order = some e := by
  obtain ⟨order, sorted, edge⟩ := List.mem_filterMap.mp listed
  obtain ⟨known, live⟩ := List.mem_filter.mp (List.mem_mergeSort.mp sorted)
  exact ⟨order, known, live, edge⟩

theorem orderEdge?_eq_some_iff {order : Order} {e : Edge} :
    orderEdge? tokens order = some e ↔ ∃ source target,
      tokens.index? order.buyToken = some source ∧ tokens.index? order.payToken = some target ∧
      source ≠ target ∧ e = ⟨source, target, .order order.id order.pay order.buy⟩ := by
  simp only [orderEdge?, Option.bind_eq_bind, Option.bind_eq_some_iff, Option.pure_def,
    Option.ite_none_left_eq_some, Option.some.injEq, exists_and_left, eq_comm (b := e)]

/-- What a snapshot is made of: the edges of the vault, and behind them those of the live orders that
are within reach of the base in the graph of them all. -/
theorem take_eq_ok_iff : take state strategy tokens = .ok s ↔
    tokens.contains strategy.base = true ∧ ∃ fixed candidate,
      state.vault.fixedEdges vaultAssets = .ok fixed ∧
      tokenGraph tokens (fixed ++ orderEdges tokens state.orders) = .ok candidate ∧
      candidate.find? strategy.base = some s.base ∧
      tokenGraph tokens (fixed ++ (orderEdges tokens state.orders).filter fun e =>
        (candidate.reachableWithin s.base strategy.maxDepth).contains e.source &&
          (candidate.reachableWithin s.base strategy.maxDepth).contains e.target) = .ok s.graph ∧
      s.block = state.block ∧ s.balance = state.balance := by
  rw [take]
  constructor
  · intro taken
    split at taken
    case isFalse => cases taken
    next known =>
      obtain ⟨fixed, offered, taken⟩ := exists_of_bind_eq_ok taken
      obtain ⟨candidate, built, taken⟩ := exists_of_bind_eq_ok taken
      obtain ⟨base, named, taken⟩ := exists_of_bind_eq_ok taken
      obtain ⟨graph, rebuilt, taken⟩ := exists_of_bind_eq_ok taken
      cases taken
      have found : candidate.find? strategy.base = some base := by
        rw [Graph.assetId] at named
        cases at_base : candidate.find? strategy.base with
        | none =>
            rw [at_base] at named
            cases named
        | some id =>
            rw [at_base] at named
            cases named
            rfl
      exact ⟨known, fixed, candidate, offered, built, found, rebuilt, rfl, rfl⟩
  · rintro ⟨known, fixed, candidate, offered, built, found, rebuilt, block, balance⟩
    rw [if_pos known]
    have named : (candidate.assetId strategy.base).mapError MarketError.graph = .ok s.base := by
      rw [Graph.assetId, found]
      rfl
    simp only [offered, built, named, rebuilt, ← block, ← balance, bind, Except.bind, pure,
      Except.pure]

theorem take_eq_ok (taken : take state strategy tokens = .ok s) :
    ∃ fixed kept candidate, state.vault.fixedEdges vaultAssets = .ok fixed ∧
      kept.Sublist (orderEdges tokens state.orders) ∧
      tokenGraph tokens (fixed ++ orderEdges tokens state.orders) = .ok candidate ∧
      candidate.find? strategy.base = some s.base ∧
      tokenGraph tokens (fixed ++ kept) = .ok s.graph ∧ s.balance = state.balance := by
  obtain ⟨-, fixed, candidate, offered, built, found, rebuilt, -, balance⟩ := take_eq_ok_iff.mp taken
  exact ⟨fixed, _, candidate, offered, List.filter_sublist, built, found, rebuilt, balance⟩

/-- The base of a snapshot is the number of the base asset. -/
theorem address_of_base (distinct : tokens.Distinct) (taken : take state strategy tokens = .ok s)
    {asset : Asset} (listed : tokens.assets[s.base]? = some asset) : asset.address = strategy.base := by
  obtain ⟨_, _, candidate, -, -, graph, found, -, -⟩ := take_eq_ok taken
  have assets := (Graph.build_eq_ok distinct.nodup (tokenGraph_eq_ok_iff.mp graph)).1
  obtain ⟨bound, same, -⟩ := Array.findIdx?_eq_some_iff_getElem.mp found
  rw [← assets, Array.getElem?_toList, Array.getElem?_eq_getElem bound] at listed
  obtain rfl := Option.some.inj listed
  simpa using same

theorem mem_edges_of_take (distinct : tokens.Distinct) (taken : take state strategy tokens = .ok s)
    {e : Edge} (listed : e ∈ s.graph.edges) :
    (∃ op, state.vault.edge? vaultAssets op = some e) ∨
      ∃ order ∈ state.orders, order.isLive = true ∧ orderEdge? tokens order = some e := by
  obtain ⟨fixed, kept, _, fixed_eq, sub, -, -, graph, -⟩ := take_eq_ok taken
  have edges := (Graph.build_eq_ok distinct.nodup (tokenGraph_eq_ok_iff.mp graph)).2
  rw [← Array.mem_toList_iff, edges, List.mem_append] at listed
  rcases listed with fixed_edge | order_edge
  · exact .inl (Vault.mem_fixedEdges fixed_eq fixed_edge)
  · exact .inr (mem_orderEdges (sub.subset order_edge))

end Snapshot

end Arbitrage
