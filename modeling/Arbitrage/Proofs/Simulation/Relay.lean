import Arbitrage.Proofs.Cycle.Path
import Arbitrage.Proofs.Cycle.Plan
import Arbitrage.Proofs.Simulation.Trade

/-!
# Plans as relays

A plan derived on a snapshot along a path that the check of cycles accepts is a relay from the base
token back to it, and the ledger that was read offers all of its edges, one market each
(`relay_of_derive`).
-/

namespace Arbitrage

def Plan.Fits (plan : Plan) : Prop := ∀ step ∈ plan.steps, step.Fits

namespace Plan

variable {g : Graph} {tokens : Tokens}

theorem relay_of_deriveSteps (assets : g.assets.toList = tokens.assets) {path : Path}
    {edges : List Edge} (same : path.length = edges.length) {index : Nat} {a b : AssetId}
    {x : Wad} {steps : List Step} (leads : Graph.Leads a edges b) {first : Asset}
    (listed : tokens.assets[a]? = some first)
    (derived : deriveSteps g index (path.zip edges) x = .ok steps) :
    ∃ last, tokens.assets[b]? = some last ∧ steps.map Step.edge = edges ∧
      Relay tokens first.address x steps last.address (lastOutput x steps) := by
  induction edges generalizing path index a x steps first with
  | nil =>
      obtain rfl := leads
      rw [List.zip_nil_right, deriveSteps_nil] at derived
      cases derived
      exact ⟨first, listed, rfl, .nil _ _⟩
  | cons e edges ih =>
      cases path with
      | nil => simp at same
      | cons id path =>
          obtain ⟨rfl, leads⟩ := leads
          rw [List.zip_cons_cons, deriveSteps_cons_eq_ok_iff] at derived
          obtain ⟨within, source, target, rest, source_eq, target_eq, derived, rfl⟩ := derived
          rw [← Array.getElem?_toList, assets] at source_eq target_eq
          obtain rfl := Option.some.inj (listed.symm.trans source_eq)
          obtain ⟨last, last_eq, taken, relay⟩ := ih (by simpa using same) leads target_eq derived
          refine ⟨last, last_eq, by simp [taken], ?_⟩
          rw [lastOutput_cons]
          let step : Step := ⟨id, e, first, target, x, e.output x⟩
          have admits : e.admits x = true := by
            rw [Edge.admits]
            cases bound : e.maxInput? with
            | none => rfl
            | some limit => simpa using within limit bound
          have sized : step.Sized tokens := ⟨listed, target_eq, admits, rfl⟩
          exact .cons sized relay

end Plan

/-- Every step of a relay is sized between two of the tokens. -/
theorem Relay.sized {tokens : Tokens} {first last : Address} {x y : Wad} {steps : List Step}
    (relay : Relay tokens first x steps last y) : ∀ step ∈ steps, step.Sized tokens := by
  induction relay with
  | nil => nofun
  | cons sized _ ih =>
      intro step listed
      rcases List.mem_cons.mp listed with rfl | later
      · exact sized
      · exact ih step later

/-- A relay that has a step takes up its input there. -/
theorem Relay.exists_first {tokens : Tokens} {first last : Address} {x y : Wad}
    {steps : List Step} (relay : Relay tokens first x steps last y) (nonempty : steps ≠ []) :
    ∃ step ∈ steps, step.source.address = first := by
  cases relay with
  | nil => exact absurd rfl nonempty
  | @cons step rest last y sized later => exact ⟨step, List.mem_cons_self, rfl⟩

theorem Plan.mem_tokens {plan : Plan} {step : Step} (listed : step ∈ plan.steps) :
    step.source.address ∈ plan.tokens ∧ step.target.address ∈ plan.tokens := by
  simp only [Plan.tokens, List.mem_eraseDups, List.mem_flatMap, List.mem_cons, List.not_mem_nil,
    or_false]
  exact ⟨⟨step, listed, .inl rfl⟩, ⟨step, listed, .inr rfl⟩⟩

theorem Plan.first_mem_tokens {tokens : Tokens} {first last : Address} {x y : Wad} {plan : Plan}
    (relay : Relay tokens first x plan.steps last y) (nonempty : plan.steps ≠ []) :
    first ∈ plan.tokens := by
  obtain ⟨step, listed, rfl⟩ := relay.exists_first nonempty
  exact (Plan.mem_tokens listed).1

theorem Plan.mem_assets {tokens : Tokens} {first last : Address} {x y : Wad} {plan : Plan}
    (relay : Relay tokens first x plan.steps last y) {t : Address} (listed : t ∈ plan.tokens) :
    t ∈ tokens.assets.map Asset.address := by
  simp only [Plan.tokens, List.mem_eraseDups, List.mem_flatMap, List.mem_cons, List.not_mem_nil,
    or_false] at listed
  obtain ⟨step, taken, end_of⟩ := listed
  obtain ⟨source, target, -, -⟩ := relay.sized step taken
  rcases end_of with rfl | rfl
  · exact List.mem_map_of_mem (List.mem_of_getElem? source)
  · exact List.mem_map_of_mem (List.mem_of_getElem? target)

/-- A plan along a cycle of a snapshot leads from the base token back to it through markets that the
ledger offers. -/
theorem Ledger.relay_of_derive {l : Ledger} {state : MarketState} {strategy : Strategy}
    {s : Snapshot} {base : AssetId} {maxDepth : Nat} {path : Path} {x : Wad} {plan : Plan}
    (sound : l.Sound) (taken : Snapshot.take state strategy l.tokens = .ok s)
    (vault : state.vault = l.vault) (orders : state.orders = l.book)
    (valid : s.graph.checkCycle base maxDepth path = .ok ())
    (derived : Plan.derive s.graph path x = .ok plan) (fits : plan.Fits) :
    ∃ asset, l.tokens.assets[base]? = some asset ∧ plan.steps ≠ [] ∧
      Relay l.tokens asset.address x plan.steps asset.address plan.output ∧
      l.Tradable plan.steps := by
  obtain ⟨-, -, edges, path_edges, leads, keys⟩ := Graph.checkCycle_eq_ok_iff.mp valid
  obtain ⟨nonempty, edges', steps, path_edges', derived, rfl⟩ := Plan.derive_eq_ok_iff.mp derived
  obtain rfl := Except.ok.inj (path_edges.symm.trans path_edges')
  have length := Graph.length_of_pathEdges path_edges
  have member := Graph.mem_edges_of_pathEdges path_edges
  obtain ⟨_, _, _, -, -, -, -, graph, -⟩ := Snapshot.take_eq_ok taken
  have built := Snapshot.tokenGraph_eq_ok_iff.mp graph
  have assets := (Graph.build_eq_ok sound.distinct.nodup built).1
  have wf := (Graph.Built.of_build built).wellFormed
  have bound : base < l.tokens.assets.length := by
    cases edges with
    | nil => exact absurd (List.eq_nil_of_length_eq_zero length.symm) nonempty
    | cons e rest =>
        have inside := wf.source_lt e (member e List.mem_cons_self)
        rw [← Array.length_toList, assets] at inside
        exact leads.1 ▸ inside
  have listed := List.getElem?_eq_getElem bound
  obtain ⟨last, last_eq, taken_edges, relay⟩ :=
    Plan.relay_of_deriveSteps assets length.symm leads listed derived
  obtain rfl := Option.some.inj (listed.symm.trans last_eq)
  refine ⟨_, listed, ?_, relay, ?_, ?_, fits⟩
  · rintro rfl
    rw [← taken_edges] at length
    exact nonempty (List.eq_nil_of_length_eq_zero length.symm)
  · intro step h
    apply offers_of_take sound.distinct sound.filed taken vault orders
    apply member
    rw [← taken_edges]
    exact List.mem_map_of_mem h
  · rw [← taken_edges, List.map_map] at keys
    exact keys

end Arbitrage
