import Arbitrage.Cycle.Search
import Arbitrage.Cycle.Selection
import Arbitrage.Proofs.Market.Snapshot
import Arbitrage.Simulation.Scenario
import Mathlib.Data.List.Sort

/-!
# The order in which resting orders are read

A snapshot lists orders by number, so where numbers differ it cannot tell in which order they were
read. Two orders with one number are listed as they were read, but then the graph cannot be built,
and it fails with the first number that is met again: all edges join two different tokens, so nothing
but a repeated key can stop an addition, and the keys come in the same order whatever was read first
(`Graph.addEdges_eq_error_of_keys`, `Snapshot.map_key_orderEdges`).

So a snapshot, and all that is found in it, depends on the orders as a multiset only
(`Snapshot.take_perm`).
-/

namespace Arbitrage

/-- The number of the order behind an edge, and zero for a vault operation. -/
def EdgeKey.number : EdgeKey → Nat
  | .vault _ => 0
  | .order id => id.word.toNat

namespace Graph

variable {g g' : Graph} {edge : Edge} {edges edges' : List Edge}

/-- An edge between two different assets of a graph, as every addition demands. -/
structure Joins (g : Graph) (e : Edge) : Prop where
  source_lt : e.source < g.assets.size
  target_lt : e.target < g.assets.size
  source_ne_target : e.source ≠ e.target

/-- Nothing but its key can keep an edge between two different assets out. -/
theorem addEdge_eq_error_iff (joins : g.Joins edge) {error : GraphError} :
    g.addEdge edge = .error error ↔
      edge.key ∈ g.edges.toList.map Edge.key ∧ error = .duplicateEdge edge.key.text := by
  obtain ⟨source, target, different⟩ := joins
  rw [← containsKey_iff, addEdge, if_neg (Nat.not_le_of_lt source), if_neg (Nat.not_le_of_lt target),
    if_neg different]
  by_cases known : g.containsKey edge.key = true <;> simp [known, eq_comm]

/-- Edges with the same keys fail to be added with the same error. -/
theorem addEdges_eq_error_of_keys {error : GraphError} (size : g'.assets.size = g.assets.size)
    (known : g'.edges.toList.map Edge.key = g.edges.toList.map Edge.key)
    (joins : ∀ e ∈ edges, g.Joins e) (joins' : ∀ e ∈ edges', g'.Joins e)
    (keys : edges'.map Edge.key = edges.map Edge.key) (failed : g.addEdges edges = .error error) :
    g'.addEdges edges' = .error error := by
  induction edges generalizing g g' edges' with
  | nil => cases failed
  | cons edge edges ih =>
      obtain ⟨edge', edges', rfl, key, keys⟩ := List.map_eq_cons_iff.mp keys
      have first := joins edge List.mem_cons_self
      have first' := joins' edge' List.mem_cons_self
      cases added : g.addEdge edge with
      | error e =>
          simp only [addEdges, added] at failed
          cases failed
          have added' : g'.addEdge edge' = .error error := by
            rw [addEdge_eq_error_iff first']
            rw [addEdge_eq_error_iff first] at added
            rwa [known, key]
          simp only [addEdges, added']
      | ok result =>
          cases added' : g'.addEdge edge' with
          | error e =>
              have refused := (addEdge_eq_error_iff first').mp added'
              rw [known, key] at refused
              rw [(addEdge_eq_error_iff first).mpr refused] at added
              cases added
          | ok result' =>
              obtain ⟨-, -, grown⟩ := addEdge_eq_ok_iff.mp added
              obtain ⟨-, -, grown'⟩ := addEdge_eq_ok_iff.mp added'
              simp only [addEdges, added, added'] at failed ⊢
              refine ih ?_ ?_ ?_ ?_ keys failed
              · rw [grown, grown']
                exact size
              · rw [grown, grown']
                simp [known, key]
              · intro e listed
                obtain ⟨source, target, different⟩ := joins e (List.mem_cons_of_mem _ listed)
                rw [grown]
                exact ⟨source, target, different⟩
              · intro e listed
                obtain ⟨source, target, different⟩ := joins' e (List.mem_cons_of_mem _ listed)
                rw [grown']
                exact ⟨source, target, different⟩

end Graph

namespace Snapshot

variable {tokens : Tokens} {orders orders' : List Order} {state : MarketState} {strategy : Strategy}

theorem key_of_orderEdge? {order : Order} {e : Edge} (edge : orderEdge? tokens order = some e) :
    e.key = .order order.id := by
  obtain ⟨_, _, -, -, -, rfl⟩ := orderEdge?_eq_some_iff.mp edge
  rfl

theorem exists_key_of_mem_orderEdges {e : Edge} (listed : e ∈ orderEdges tokens orders) :
    ∃ id, e.key = .order id := by
  obtain ⟨order, -, -, edge⟩ := mem_orderEdges listed
  exact ⟨order.id, key_of_orderEdge? edge⟩

theorem key_eq_of_number_eq {e f : Edge} (he : e ∈ orderEdges tokens orders)
    (hf : f ∈ orderEdges tokens orders') (same : e.key.number = f.key.number) : e.key = f.key := by
  obtain ⟨i, hi⟩ := exists_key_of_mem_orderEdges he
  obtain ⟨j, hj⟩ := exists_key_of_mem_orderEdges hf
  rw [hi, hj] at same ⊢
  rw [show i = j from congrArg OrderId.mk (BitVec.eq_of_toNat_eq same)]

theorem orderEdges_perm (tokens : Tokens) (perm : orders.Perm orders') :
    (orderEdges tokens orders).Perm (orderEdges tokens orders') := by
  have left := List.mergeSort_perm (orders.filter Order.isLive) fun a b => a.id ≤ b.id
  have right := List.mergeSort_perm (orders'.filter Order.isLive) fun a b => a.id ≤ b.id
  exact (left.trans ((perm.filter _).trans right.symm)).filterMap _

theorem pairwise_orderEdges (tokens : Tokens) (orders : List Order) :
    (orderEdges tokens orders).Pairwise fun e f => e.key.number ≤ f.key.number := by
  have sorted : ((orders.filter Order.isLive).mergeSort fun a b => a.id ≤ b.id).Pairwise
      fun a b => a.id.word.toNat ≤ b.id.word.toNat := by
    refine (List.pairwise_mergeSort ?_ ?_ _).imp fun {a b} le => ?_
    · intro a b c
      simp only [decide_eq_true_eq]
      exact BitVec.le_trans
    · intro a b
      simp only [Bool.or_eq_true, decide_eq_true_eq]
      exact BitVec.le_total ..
    · exact of_decide_eq_true le
  refine sorted.filterMap _ ?_
  intro a b le e edge f edge'
  rw [key_of_orderEdge? edge, key_of_orderEdge? edge']
  exact le

/-- The keys come in the same order whatever was read first. -/
theorem map_key_orderEdges (perm : orders.Perm orders') :
    (orderEdges tokens orders').map Edge.key = (orderEdges tokens orders).map Edge.key := by
  have same : ∀ k l, k ∈ (orderEdges tokens orders').map Edge.key →
      l ∈ (orderEdges tokens orders).map Edge.key → k.number ≤ l.number → l.number ≤ k.number →
      k = l := by
    intro k l hk hl le ge
    obtain ⟨e, listed, rfl⟩ := List.mem_map.mp hk
    obtain ⟨f, listed', rfl⟩ := List.mem_map.mp hl
    exact key_eq_of_number_eq listed listed' (Nat.le_antisymm le ge)
  have edges := (orderEdges_perm tokens perm).symm
  exact (edges.map Edge.key).eq_of_pairwise same
    (List.pairwise_map.mpr (pairwise_orderEdges tokens orders'))
    (List.pairwise_map.mpr (pairwise_orderEdges tokens orders))

/-- Edges with different keys come in the same order whatever was read first. -/
theorem orderEdges_eq (perm : orders.Perm orders')
    (distinct : ((orderEdges tokens orders).map Edge.key).Nodup) :
    orderEdges tokens orders' = orderEdges tokens orders := by
  have edges := (orderEdges_perm tokens perm).symm
  have same : ∀ e f, e ∈ orderEdges tokens orders' → f ∈ orderEdges tokens orders →
      e.key.number ≤ f.key.number → f.key.number ≤ e.key.number → e = f := by
    intro e f he hf le ge
    exact List.inj_on_of_nodup_map distinct (edges.subset he) hf
      (key_eq_of_number_eq he hf (Nat.le_antisymm le ge))
  exact edges.eq_of_pairwise same (pairwise_orderEdges tokens orders')
    (pairwise_orderEdges tokens orders)

/-- The edges of a vault and of orders join two different tokens. -/
theorem joins_of_mem (distinct : tokens.Distinct) {fixed : List Edge} {v : Vault}
    (offered : v.fixedEdges vaultAssets = .ok fixed) {e : Edge}
    (listed : e ∈ fixed ++ orderEdges tokens orders) :
    (Graph.empty.addAssets tokens.assets).Joins e := by
  have size : (Graph.empty.addAssets tokens.assets).assets.size = 3 := by
    have entered := Graph.assets_addAssets (g := .empty) (by simpa [Graph.empty] using distinct.nodup)
    simpa [Graph.empty, Tokens.assets, Tokens.all] using congrArg List.length entered
  rcases List.mem_append.mp listed with fixed_edge | order_edge
  · obtain ⟨op, edge⟩ := Vault.mem_fixedEdges offered fixed_edge
    cases op with
    | join =>
        obtain ⟨_, -, -, -, rfl⟩ := Vault.join_edge?_iff.mp edge
        constructor <;> simp [size, vaultAssets]
    | exit =>
        obtain ⟨_, -, -, rfl⟩ := Vault.exit_edge?_iff.mp edge
        constructor <;> simp [size, vaultAssets]
    | boom =>
        obtain ⟨_, _, -, -, -, -, rfl⟩ := Vault.boom_edge?_iff.mp edge
        constructor <;> simp [size, vaultAssets]
    | bust =>
        obtain ⟨_, _, _, -, -, -, -, -, -, rfl⟩ := Vault.bust_edge?_iff.mp edge
        constructor <;> simp [size, vaultAssets]
  · obtain ⟨order, -, -, edge⟩ := mem_orderEdges order_edge
    obtain ⟨source, target, at_source, at_target, different, rfl⟩ := orderEdge?_eq_some_iff.mp edge
    obtain ⟨source_lt, -⟩ := List.findIdx?_eq_some_iff_getElem.mp at_source
    obtain ⟨target_lt, -⟩ := List.findIdx?_eq_some_iff_getElem.mp at_target
    exact ⟨by rw [size]; exact source_lt, by rw [size]; exact target_lt, different⟩

/-- If the graph of all edges cannot be built, it fails alike whatever was read first. -/
theorem tokenGraph_eq_error_perm (distinct : tokens.Distinct) (perm : orders.Perm orders')
    {fixed : List Edge} {v : Vault} (offered : v.fixedEdges vaultAssets = .ok fixed)
    {error : MarketError} (failed : tokenGraph tokens (fixed ++ orderEdges tokens orders) = .error error) :
    tokenGraph tokens (fixed ++ orderEdges tokens orders') = .error error := by
  have keys : (fixed ++ orderEdges tokens orders').map Edge.key =
      (fixed ++ orderEdges tokens orders).map Edge.key := by
    rw [List.map_append, List.map_append, map_key_orderEdges perm]
  rw [tokenGraph] at failed ⊢
  cases built : Graph.build tokens.assets (fixed ++ orderEdges tokens orders) with
  | ok g =>
      rw [built] at failed
      cases failed
  | error e =>
      have refused : Graph.build tokens.assets (fixed ++ orderEdges tokens orders') = .error e :=
        Graph.addEdges_eq_error_of_keys rfl rfl (fun _ => joins_of_mem distinct offered)
          (fun _ => joins_of_mem distinct offered) keys built
      rw [refused, ← built]
      exact failed

/-- If the graph of all edges can be built, the edges were the same whatever was read first. -/
theorem orderEdges_eq_of_tokenGraph (distinct : tokens.Distinct) (perm : orders.Perm orders')
    {fixed : List Edge} {g : Graph}
    (built : tokenGraph tokens (fixed ++ orderEdges tokens orders) = .ok g) :
    orderEdges tokens orders' = orderEdges tokens orders := by
  have built := tokenGraph_eq_ok_iff.mp built
  have keys := (Graph.Built.of_build built).wellFormed.keys
  rw [(Graph.build_eq_ok distinct.nodup built).2, List.map_append] at keys
  exact orderEdges_eq perm (List.nodup_append.mp keys).2.1

/-- The cycles that a strategy finds in a snapshot, and what it makes of them. -/
def survey (strategy : Strategy) (s : Snapshot) : List Path × Evaluation :=
  (s.graph.cycles s.base strategy.maxDepth,
    (Sizing.ofSnapshot strategy s).evaluate s.graph (s.graph.cycles s.base strategy.maxDepth))

/-- A snapshot does not depend on the order in which the resting orders were read, and neither do the
cycles that are found in it nor what is made of them. -/
theorem take_perm (distinct : tokens.Distinct) (perm : state.orders.Perm orders') :
    take { state with orders := orders' } strategy tokens = take state strategy tokens ∧
      (take { state with orders := orders' } strategy tokens).map (survey strategy) =
        (take state strategy tokens).map (survey strategy) := by
  have same : take { state with orders := orders' } strategy tokens = take state strategy tokens := by
    rw [take, take]
    cases offered : state.vault.fixedEdges vaultAssets with
    | error e => rfl
    | ok fixed =>
        cases built : tokenGraph tokens (fixed ++ orderEdges tokens state.orders) with
        | error e =>
            have refused := tokenGraph_eq_error_perm distinct perm offered built
            split
            · show tokenGraph _ _ >>= _ = tokenGraph _ _ >>= _
              rw [refused, built]
              rfl
            · rfl
        | ok candidate =>
            rw [orderEdges_eq_of_tokenGraph distinct perm built]
  exact ⟨same, by rw [same]⟩

end Snapshot

namespace Scenario

/-- Two orders with one number and different terms, a dead one, and one of a token that is not traded. -/
def clashing : List Order := [
  ⟨.ofNat 2, tokens.skr, .ofUnits 110, tokens.gem, .ofUnits 100, maker⟩,
  ⟨.ofNat 1, tokens.skr, .zero, tokens.gem, .ofUnits 100, maker⟩,
  ⟨.ofNat 2, tokens.gem, .ofUnits 5, tokens.skr, .ofUnits 7, maker⟩,
  ⟨.ofNat 3, maker, .ofUnits 1, tokens.skr, .ofUnits 1, maker⟩]

end Scenario

namespace Snapshot

open Scenario

def clashingState : MarketState := ⟨1, vault, clashing, .ofUnits 1000⟩

/-- Whichever of the two orders was read second, it is refused. -/
theorem take_perm_clashing : Scenario.tokens.Distinct ∧ clashing.Perm clashing.reverse ∧
    take { clashingState with orders := clashing.reverse }
      ⟨Scenario.tokens.gem, .one, .ofUnits 100, 3, false⟩ Scenario.tokens =
        .error (.graph (.duplicateEdge "take #2")) := by
  have distinct : Scenario.tokens.Distinct := ⟨by decide, by decide, by decide⟩
  have perm : clashing.Perm clashing.reverse := clashing.reverse_perm.symm
  have listed : orderEdges Scenario.tokens clashingState.orders =
      [⟨0, 1, .order (.ofNat 2) (.ofUnits 110) (.ofUnits 100)⟩,
        ⟨1, 0, .order (.ofNat 2) (.ofUnits 5) (.ofUnits 7)⟩] := by
    rw [orderEdges, List.mergeSort_of_pairwise (by decide)]
    decide
  have refused : take clashingState ⟨Scenario.tokens.gem, .one, .ofUnits 100, 3, false⟩
      Scenario.tokens = .error (.graph (.duplicateEdge "take #2")) := by
    rw [take, listed]
    decide +kernel
  obtain ⟨same, -⟩ := take_perm distinct (show clashingState.orders.Perm clashing.reverse from perm)
  exact ⟨distinct, perm, same.trans refused⟩

end Snapshot

end Arbitrage
