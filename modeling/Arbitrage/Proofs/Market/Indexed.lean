import Arbitrage.Market.Indexed
import Arbitrage.Proofs.Market.Graph

/-!
# Indexes in step with their graph

An addition goes through several tables and indexes one after the other, and can fail between two of
them. `run_addAsset` and `run_addEdge` say once what it leaves; `InStep` relates the indexes to the
tables, and every addition keeps it (`InStep.grow`). So whatever additions a graph has come from,
failing ones included, a look-up through an index finds what is in the tables and nothing else, and
an addition that fails leaves no trace (`after_consistent`).
-/

namespace Arbitrage.Graph

/-- A list holds the numbers of the edges with a property, in increasing order. -/
structure Numbers (g : Graph) (P : Edge → Prop) (ids : List EdgeId) : Prop where
  increasing : ids.Pairwise (· < ·)
  mem_iff : ∀ id, id ∈ ids ↔ ∃ e, g.edges[id]? = some e ∧ P e

section Lookup

variable {g g' : Graph} {edge : Edge} {id : EdgeId}

theorem WellFormed.find?_eq_some_iff (wf : g.WellFormed) {address : Address} {id : AssetId} :
    g.find? address = some id ↔ (g.assets[id]?).map Asset.address = some address := by
  rw [find?, Array.findIdx?_eq_some_iff_getElem]
  constructor
  · rintro ⟨bound, same, -⟩
    simpa [Array.getElem?_eq_getElem bound] using same
  · intro listed
    obtain ⟨asset, present, same⟩ := Option.map_eq_some_iff.mp listed
    obtain ⟨bound, at_id⟩ := Array.getElem?_eq_some_iff.mp present
    refine ⟨bound, by simpa [at_id] using same, ?_⟩
    intro j before found
    -- an earlier asset of this address would be entered twice
    have earlier := List.pairwise_iff_getElem.mp wf.addresses j id
      (by simpa using Nat.lt_trans before bound) (by simpa using bound) before
    apply earlier
    simpa [at_id, same] using found

theorem find?_push (asset : Asset) (address : Address) :
    ({ g with assets := g.assets.push asset } : Graph).find? address =
      (g.find? address).or (if asset.address = address then some g.assets.size else none) := by
  simp only [find?, Array.findIdx?_push, beq_iff_eq]

theorem WellFormed.numbers_outbound (wf : g.WellFormed) (asset : AssetId) :
    g.Numbers (fun e => e.source = asset) (g.outboundOrNone asset) :=
  ⟨wf.outboundOrNone_pairwise asset, fun _ => wf.mem_outboundOrNone⟩

theorem WellFormed.numbers_between (wf : g.WellFormed) (source target : AssetId) :
    g.Numbers (fun e => e.source = source ∧ e.target = target) (g.between source target) := by
  refine ⟨(wf.outboundOrNone_pairwise source).filter _, ?_⟩
  intro id
  rw [between, List.mem_filter, wf.mem_outboundOrNone]
  constructor
  · rintro ⟨⟨e, present, leaves⟩, enters⟩
    exact ⟨e, present, leaves, by simpa [present] using enters⟩
  · rintro ⟨e, present, leaves, enters⟩
    exact ⟨⟨e, present, leaves⟩, by simpa [present] using enters⟩

theorem WellFormed.outbound_eq (wf : g.WellFormed) (asset : AssetId) :
    g.outbound asset =
      if asset < g.assets.size then .ok (g.outboundOrNone asset)
      else .error (.invalidAssetIndex asset) := by
  rw [outbound, outboundOrNone, ← wf.leaving_size]
  split
  · next listed =>
      rw [if_pos (Array.getElem?_eq_some_iff.mp listed).1]
      simp [listed]
  · next missing => rw [if_neg (Nat.not_lt.mpr (Array.getElem?_eq_none_iff.mp missing))]

/-- Which edges lead from one asset to another depends on the edges alone. -/
theorem WellFormed.between_congr (wf : g.WellFormed) (wf' : g'.WellFormed)
    (same : g'.edges = g.edges) (source target : AssetId) :
    g'.between source target = g.between source target := by
  simp only [between, wf.leaving_eq, wf'.leaving_eq, same]

theorem WellFormed.between_push (wf : g.WellFormed) (wf' : g'.WellFormed)
    (grown : g'.edges = g.edges.push edge) (source target : AssetId) :
    g'.between source target = g.between source target ++
      if edge.source = source ∧ edge.target = target then [g.edges.size] else [] := by
  have old : (idsFrom g.edges source).filter
        (fun i => ((g.edges.push edge)[i]?).any (·.target == target)) =
      (idsFrom g.edges source).filter (fun i => (g.edges[i]?).any (·.target == target)) := by
    apply List.filter_congr
    intro i listed
    obtain ⟨e, present, -⟩ := mem_idsFrom.mp listed
    have bound := (Array.getElem?_eq_some_iff.mp present).1
    rw [Array.getElem?_push_lt bound, Array.getElem?_eq_getElem bound]
  simp only [between, wf.leaving_eq, wf'.leaving_eq, grown, idsFrom_push, List.filter_append, old]
  by_cases leaves : edge.source = source <;> by_cases enters : edge.target = target <;>
    simp [leaves, enters]

end Lookup

namespace Indexed

variable {x y : Indexed} {edge : Edge} {error : GraphError}

section Edits

variable {α β : Type} {p : Edit α} {f : α → Edit β} {a : α}

theorem run_bind_of_ok (first : p.run.run x = (.ok a, y)) :
    (p >>= f).run.run x = (f a).run.run y := by
  rw [ExceptT.run_bind, StateT.run_bind, first]
  rfl

theorem run_bind_of_error (first : p.run.run x = (.error error, y)) :
    (p >>= f).run.run x = (.error error, y) := by
  rw [ExceptT.run_bind, StateT.run_bind, first]
  rfl

theorem run_lift {p : StateM Indexed α} (done : p.run x = (a, y)) :
    (liftM p : Edit α).run.run x = (.ok a, y) := by
  change ((fun r => (Except.ok r.1, r.2)) (p.run x) : Except GraphError α × Indexed) = _
  rw [done]

end Edits

section Additions

variable {asset : Asset} {id : AssetId} {key : EdgeKey}

theorem run_addAsset_of_known (known : x.numbers.find? asset.address = some id) :
    (addAsset asset).run x = (id, x) := by
  simp only [addAsset, StateT.run_bind, StateT.run_get, pure_bind, known]
  rfl

theorem run_addAsset_of_new (new : x.numbers.find? asset.address = none) :
    (addAsset asset).run x = (x.assets.size, { x with
      numbers := x.numbers.insert asset.address x.assets.size
      assets := x.assets.push asset
      leaving := x.leaving.push [] }) := by
  simp only [addAsset, StateT.run_bind, StateT.run_get, pure_bind, new]
  rfl

theorem run_takeKey_of_free (free : x.containsKey key = false) :
    (takeKey key).run x = (true, { x with keys := key :: x.keys }) := by
  change (if x.containsKey key then _ else _) = _
  rw [free]
  rfl

theorem run_takeKey_of_taken (taken : x.containsKey key = true) :
    (takeKey key).run x = (false, x) := by
  change (if x.containsKey key then _ else _) = _
  rw [taken]
  rfl

theorem run_expectAsset_of_lt (present : id < x.assets.size) :
    (expectAsset id).run.run x = (.ok (), x) := by
  refine (run_bind_of_ok (a := x) rfl).trans ?_
  rw [if_neg (Nat.not_le.mpr present)]
  rfl

theorem run_expectAsset_of_le (absent : x.assets.size ≤ id) :
    (expectAsset id).run.run x = (.error (.invalidAssetIndex id), x) := by
  refine (run_bind_of_ok (a := x) rfl).trans ?_
  rw [if_pos absent]
  rfl

/-- The indexed graph with an edge entered in all tables and indexes. -/
def enter (x : Indexed) (edge : Edge) : Indexed := { x with
  keys := edge.key :: x.keys
  pairs := x.pairs.insert (edge.source, edge.target)
    (x.between edge.source edge.target ++ [x.edges.size])
  leaving := x.leaving.modify edge.source (· ++ [x.edges.size])
  edges := x.edges.push edge }

/-- Nothing is wrong with an edge: its ends are there and differ, and its key is free. -/
structure Accepts (x : Indexed) (edge : Edge) : Prop where
  source : edge.source < x.assets.size
  target : edge.target < x.assets.size
  different : edge.source ≠ edge.target
  free : x.containsKey edge.key = false

/-- What is wrong with an edge, and nothing is that is looked at before. -/
inductive Refuses (x : Indexed) (edge : Edge) : GraphError → Prop
  | source (absent : x.assets.size ≤ edge.source) : Refuses x edge (.invalidAssetIndex edge.source)
  | target (source : edge.source < x.assets.size) (absent : x.assets.size ≤ edge.target) :
      Refuses x edge (.invalidAssetIndex edge.target)
  | loop (source : edge.source < x.assets.size) (target : edge.target < x.assets.size)
      (same : edge.source = edge.target) : Refuses x edge (.selfLoop edge.key.text)
  | duplicate (source : edge.source < x.assets.size) (target : edge.target < x.assets.size)
      (different : edge.source ≠ edge.target) (taken : x.containsKey edge.key = true) :
      Refuses x edge (.duplicateEdge edge.key.text)

theorem run_addEdge_of_accepts (accepts : x.Accepts edge) :
    (addEdge edge).run.run x = (.ok x.edges.size, x.enter edge) := by
  refine (run_bind_of_ok (run_expectAsset_of_lt accepts.source)).trans ?_
  refine (run_bind_of_ok (run_expectAsset_of_lt accepts.target)).trans ?_
  rw [if_neg accepts.different]
  exact run_bind_of_ok (run_lift (run_takeKey_of_free accepts.free))

/-- A refused edge leaves the graph and its indexes as they were. -/
theorem run_addEdge_of_refuses (refuses : x.Refuses edge error) :
    (addEdge edge).run.run x = (.error error, x) := by
  cases refuses with
  | source absent => exact run_bind_of_error (run_expectAsset_of_le absent)
  | target source absent =>
      refine (run_bind_of_ok (run_expectAsset_of_lt source)).trans ?_
      exact run_bind_of_error (run_expectAsset_of_le absent)
  | loop source target same =>
      refine (run_bind_of_ok (run_expectAsset_of_lt source)).trans ?_
      refine (run_bind_of_ok (run_expectAsset_of_lt target)).trans ?_
      rw [if_pos same]
      rfl
  | duplicate source target different taken =>
      refine (run_bind_of_ok (run_expectAsset_of_lt source)).trans ?_
      refine (run_bind_of_ok (run_expectAsset_of_lt target)).trans ?_
      rw [if_neg different]
      exact run_bind_of_ok (run_lift (run_takeKey_of_taken taken))

/-- An edge is accepted, or refused for one reason, the first that the addition comes upon. -/
theorem accepts_or_refuses (x : Indexed) (edge : Edge) :
    x.Accepts edge ∨ ∃ error, x.Refuses edge error := by
  by_cases source : edge.source < x.assets.size
  · by_cases target : edge.target < x.assets.size
    · by_cases same : edge.source = edge.target
      · exact .inr ⟨_, .loop source target same⟩
      · cases taken : x.containsKey edge.key with
        | false => exact .inl ⟨source, target, same, taken⟩
        | true => exact .inr ⟨_, .duplicate source target same taken⟩
    · exact .inr ⟨_, .target source (Nat.not_lt.mp target)⟩
  · exact .inr ⟨_, .source (Nat.not_lt.mp source)⟩

/-- An addition of an edge fails with what is wrong with it, and changes nothing then. -/
theorem run_addEdge_eq_error_iff :
    (addEdge edge).run.run x = (.error error, y) ↔ x.Refuses edge error ∧ y = x := by
  constructor
  · intro failed
    rcases accepts_or_refuses x edge with accepts | ⟨reason, refuses⟩
    · rw [run_addEdge_of_accepts accepts] at failed
      cases failed
    · rw [run_addEdge_of_refuses refuses] at failed
      cases failed
      exact ⟨refuses, rfl⟩
  · rintro ⟨refuses, rfl⟩
    exact run_addEdge_of_refuses refuses

theorem exists_refuses_iff : (∃ error, x.Refuses edge error) ↔
    (x.assets.size ≤ edge.source ∨ x.assets.size ≤ edge.target) ∨ edge.source = edge.target ∨
      x.containsKey edge.key = true := by
  constructor
  · rintro ⟨_, absent | ⟨_, absent⟩ | ⟨_, _, same⟩ | ⟨_, _, _, taken⟩⟩
    · exact .inl (.inl absent)
    · exact .inl (.inr absent)
    · exact .inr (.inl same)
    · exact .inr (.inr taken)
  · intro wrong
    rcases accepts_or_refuses x edge with ⟨source, target, different, free⟩ | refused
    · rcases wrong with (absent | absent) | same | taken
      · exact absurd source (Nat.not_lt.mpr absent)
      · exact absurd target (Nat.not_lt.mpr absent)
      · exact absurd same different
      · rw [free] at taken
        cases taken
    · exact refused

end Additions

section InStep

/-- The indexes say what the tables say, each of them in full. -/
structure InStep (x : Indexed) : Prop where
  wellFormed : x.toGraph.WellFormed
  numbers : ∀ address, x.numbers.find? address = x.toGraph.find? address
  between : ∀ source target, x.between source target = x.toGraph.between source target
  containsKey : ∀ key, x.containsKey key = x.toGraph.containsKey key

theorem InStep.empty : ({} : Indexed).InStep := by
  refine ⟨WellFormed.empty, ?_, ?_, ?_⟩
  · intro address
    simp [Table.find?, Table.empty, Graph.find?]
  · intro source target
    simp [Indexed.between, Table.find?, Table.empty, Graph.between, outboundOrNone]
  · intro key
    simp [Indexed.containsKey, Graph.containsKey]

/-- An asset is found or entered as in the graph without indexes. -/
theorem InStep.growAsset (inStep : x.InStep) (asset : Asset) :
    (x.grow (.asset asset)).InStep ∧
      (x.grow (.asset asset)).toGraph = x.toGraph.grow (.asset asset) := by
  have wf := inStep.wellFormed.addAsset asset
  simp only [grow, Graph.grow, Graph.addAsset, ← inStep.numbers] at wf ⊢
  cases known : x.numbers.find? asset.address with
  | some id =>
      rw [run_addAsset_of_known known]
      exact ⟨inStep, rfl⟩
  | none =>
      rw [run_addAsset_of_new known]
      rw [known] at wf
      refine ⟨⟨wf, ?_, ?_, inStep.containsKey⟩, rfl⟩
      · intro address
        have found := find?_push (g := x.toGraph) asset address
        rw [← inStep.numbers] at found
        refine Eq.trans ?_ found.symm
        rw [Table.find?_insert]
        by_cases same : asset.address = address
        · simp [← same, known]
        · simp [same, Ne.symm same]
      · intro source target
        exact (inStep.between source target).trans
          (inStep.wellFormed.between_congr wf rfl source target).symm

/-- An accepted edge is entered as in the graph without indexes. -/
theorem InStep.enter (inStep : x.InStep) (accepts : x.Accepts edge) :
    (x.enter edge).InStep ∧
      x.toGraph.addEdge edge = .ok (x.edges.size, (x.enter edge).toGraph) := by
  obtain ⟨source, target, different, free⟩ := accepts
  have fresh : edge.key ∉ x.edges.toList.map Edge.key := by
    rw [← containsKey_iff, ← inStep.containsKey, free]
    nofun
  have added : x.toGraph.addEdge edge = .ok (x.edges.size, (x.enter edge).toGraph) :=
    addEdge_eq_ok_iff.mpr ⟨⟨source, target, different, fresh⟩, rfl, rfl⟩
  have wf := inStep.wellFormed.addEdge added
  refine ⟨⟨wf, inStep.numbers, ?_, ?_⟩, added⟩
  · intro s t
    rw [inStep.wellFormed.between_push wf rfl, ← inStep.between]
    by_cases here : (s, t) = (edge.source, edge.target)
    · cases here
      simp [Indexed.between, Indexed.enter]
    · have elsewhere : ¬ (edge.source = s ∧ edge.target = t) := by
        rintro ⟨rfl, rfl⟩
        exact here rfl
      simp [Indexed.between, Indexed.enter, here, elsewhere]
  · intro key
    have before := inStep.containsKey key
    simp only [Indexed.containsKey, Graph.containsKey, Indexed.enter] at before ⊢
    rw [List.contains_cons, before, Array.any_push, Bool.or_comm]
    rw [BEq.comm]

/-- A refused edge is refused for the same reason without indexes. -/
theorem InStep.addEdge_of_refuses (inStep : x.InStep) (refuses : x.Refuses edge error) :
    x.toGraph.addEdge edge = .error error := by
  rw [Graph.addEdge]
  cases refuses with
  | source absent => rw [if_pos absent]
  | target source absent => rw [if_neg (Nat.not_le.mpr source), if_pos absent]
  | loop source target same =>
      rw [if_neg (Nat.not_le.mpr source), if_neg (Nat.not_le.mpr target), if_pos same]
  | duplicate source target different taken =>
      rw [inStep.containsKey] at taken
      rw [if_neg (Nat.not_le.mpr source), if_neg (Nat.not_le.mpr target), if_neg different,
        if_pos taken]

/-- Every addition keeps the indexes in step, and does to the tables what it does without them. -/
theorem InStep.grow (inStep : x.InStep) (addition : Addition) :
    (x.grow addition).InStep ∧ (x.grow addition).toGraph = x.toGraph.grow addition := by
  cases addition with
  | asset asset => exact inStep.growAsset asset
  | edge edge =>
      simp only [Indexed.grow, Graph.grow]
      rcases x.accepts_or_refuses edge with accepts | ⟨error, refuses⟩
      · obtain ⟨kept, added⟩ := inStep.enter accepts
        rw [run_addEdge_of_accepts accepts, added]
        exact ⟨kept, rfl⟩
      · rw [run_addEdge_of_refuses refuses, inStep.addEdge_of_refuses refuses]
        exact ⟨inStep, rfl⟩

theorem InStep.foldl_grow (inStep : x.InStep) (additions : List Addition) :
    (additions.foldl Indexed.grow x).InStep ∧
      (additions.foldl Indexed.grow x).toGraph = additions.foldl Graph.grow x.toGraph := by
  induction additions generalizing x with
  | nil => exact ⟨inStep, rfl⟩
  | cons addition additions ih =>
      obtain ⟨kept, grown⟩ := inStep.grow addition
      rw [List.foldl_cons, List.foldl_cons, ← grown]
      exact ih kept

theorem inStep_after (additions : List Addition) : (after additions).InStep :=
  (InStep.empty.foldl_grow additions).1

end InStep

/-- What the look-ups of an indexed graph find, said of the tables behind them and of nothing
else. -/
structure Consistent (x : Indexed) : Prop where
  addresses : (x.assets.toList.map Asset.address).Nodup
  assetId_eq_ok_iff : ∀ address id,
    x.assetId address = .ok id ↔ (x.assets[id]?).map Asset.address = some address
  assetId_of_absent : ∀ address, (∀ asset ∈ x.assets, asset.address ≠ address) →
    x.assetId address = .error (.assetNotFound address)
  joins : ∀ e ∈ x.edges,
    e.source < x.assets.size ∧ e.target < x.assets.size ∧ e.source ≠ e.target
  keys : (x.edges.toList.map Edge.key).Nodup
  containsKey_iff : ∀ key, x.containsKey key = true ↔ ∃ e ∈ x.edges, e.key = key
  outbound : ∀ asset < x.assets.size,
    ∃ ids, x.outbound asset = .ok ids ∧ x.Numbers (fun e => e.source = asset) ids
  outbound_of_absent : ∀ asset, x.assets.size ≤ asset →
    x.outbound asset = .error (.invalidAssetIndex asset)
  between : ∀ source target,
    x.Numbers (fun e => e.source = source ∧ e.target = target) (x.between source target)

/-- An indexed graph holds the tables of a graph, and finds in them what the graph finds. -/
structure Agrees (x : Indexed) (g : Graph) : Prop where
  tables : x.toGraph = g
  assetId : ∀ address, x.assetId address = g.assetId address
  between : ∀ source target, x.between source target = g.between source target
  containsKey : ∀ key, x.containsKey key = g.containsKey key

/-- An addition leaves nothing of itself behind when it fails, and adds at the end of a table when it
succeeds. -/
structure Atomic (x : Indexed) : Prop where
  known : ∀ asset id, x.assetId asset.address = .ok id → (addAsset asset).run x = (id, x)
  new : ∀ asset, (∀ id, x.assetId asset.address ≠ .ok id) →
    ∃ y, (addAsset asset).run x = (x.assets.size, y) ∧
      y.assets = x.assets.push asset ∧ y.edges = x.edges
  refused : ∀ edge error y, (addEdge edge).run.run x = (.error error, y) → y = x
  fails_iff : ∀ edge, (∃ error y, (addEdge edge).run.run x = (.error error, y)) ↔
    (x.assets.size ≤ edge.source ∨ x.assets.size ≤ edge.target) ∨ edge.source = edge.target ∨
      ∃ e ∈ x.edges, e.key = edge.key
  added : ∀ edge id y, (addEdge edge).run.run x = (.ok id, y) →
    id = x.edges.size ∧ y.assets = x.assets ∧ y.edges = x.edges.push edge

theorem InStep.assetId_eq (inStep : x.InStep) (address : Address) :
    x.assetId address = x.toGraph.assetId address := by
  rw [Indexed.assetId, inStep.numbers]
  rfl

theorem InStep.containsKey_iff (inStep : x.InStep) (key : EdgeKey) :
    x.containsKey key = true ↔ ∃ e ∈ x.edges, e.key = key := by
  rw [inStep.containsKey, Graph.containsKey_iff]
  simp

theorem InStep.assetId_eq_ok_iff (inStep : x.InStep) {address : Address} {id : AssetId} :
    x.assetId address = .ok id ↔ (x.assets[id]?).map Asset.address = some address := by
  rw [← inStep.wellFormed.find?_eq_some_iff, ← inStep.numbers, Indexed.assetId]
  cases x.numbers.find? address <;> simp

theorem InStep.consistent (inStep : x.InStep) : x.Consistent := by
  have wf := inStep.wellFormed
  refine ⟨wf.addresses, fun _ _ => inStep.assetId_eq_ok_iff, ?_, ?_, wf.keys,
    inStep.containsKey_iff, ?_, ?_, ?_⟩
  · intro address absent
    have missing : x.toGraph.find? address = none := by
      rw [find?_eq_none_iff, List.mem_map]
      rintro ⟨asset, listed, same⟩
      exact absent asset (by simpa using listed) same
    rw [inStep.assetId_eq, Graph.assetId, missing]
  · intro e listed
    exact ⟨wf.source_lt e listed, wf.target_lt e listed, wf.source_ne_target e listed⟩
  · intro asset present
    refine ⟨x.outboundOrNone asset, ?_, wf.numbers_outbound asset⟩
    rw [wf.outbound_eq, if_pos present]
  · intro asset absent
    rw [wf.outbound_eq, if_neg (Nat.not_lt.mpr absent)]
  · intro source target
    rw [inStep.between]
    exact wf.numbers_between source target

theorem InStep.agrees (inStep : x.InStep) : x.Agrees x.toGraph :=
  ⟨rfl, inStep.assetId_eq, inStep.between, inStep.containsKey⟩

theorem InStep.atomic (inStep : x.InStep) : x.Atomic := by
  refine ⟨?_, ?_, ?_, ?_, ?_⟩
  · intro asset id found
    rw [Indexed.assetId] at found
    cases known : x.numbers.find? asset.address with
    | none =>
        rw [known] at found
        cases found
    | some id' =>
        rw [known] at found
        cases found
        exact run_addAsset_of_known known
  · intro asset absent
    rw [Indexed.assetId] at absent
    cases known : x.numbers.find? asset.address with
    | none => exact ⟨_, run_addAsset_of_new known, rfl, rfl⟩
    | some id =>
        rw [known] at absent
        exact absurd rfl (absent id)
  · intro edge error y failed
    exact (run_addEdge_eq_error_iff.mp failed).2
  · intro edge
    rw [← inStep.containsKey_iff, ← exists_refuses_iff]
    simp only [run_addEdge_eq_error_iff, exists_and_left, exists_eq, and_true]
  · intro edge id y succeeded
    rcases accepts_or_refuses x edge with accepts | ⟨error, refuses⟩
    · rw [run_addEdge_of_accepts accepts] at succeeded
      cases succeeded
      exact ⟨rfl, rfl, rfl⟩
    · rw [run_addEdge_of_refuses refuses] at succeeded
      cases succeeded

/-- After any additions, failing ones included, the look-ups of a graph find exactly what its tables
hold, through the indexes and without them. Of the additions that can follow, one of a known asset
changes nothing, and so does one of an edge that fails; it fails exactly if an end of the edge is no
asset, if its ends are the same, or if its key is taken. -/
theorem after_consistent (additions : List Addition) :
    (after additions).Consistent ∧ (after additions).Agrees (Graph.after additions) ∧
      (after additions).Atomic := by
  have inStep := inStep_after additions
  have tables : (after additions).toGraph = Graph.after additions :=
    (InStep.empty.foldl_grow additions).2
  refine ⟨inStep.consistent, ?_, inStep.atomic⟩
  rw [← tables]
  exact inStep.agrees

/-- An edge from the first of two assets to the second. -/
def across : Edge := ⟨0, 1, .fixedPrice .join .one .unbounded⟩

def loop : Edge := ⟨1, 1, .fixedPrice .boom .one .unbounded⟩

/-- Two assets and the edges between them, with one asset and three edges that cannot be added. -/
def refusals : List Addition :=
  [.asset ⟨"gem", .repeated 0x11⟩, .edge across, .asset ⟨"skr", .repeated 0x22⟩, .edge across,
    .edge loop, .asset ⟨"GEM", .repeated 0x11⟩, .edge across,
    .edge ⟨1, 0, .fixedPrice .exit .one .unbounded⟩]

/-- The first edge comes too early, so it is the second attempt that adds it. In the end every look-up
finds the two assets and the two edges, and a loop is still refused without a trace. -/
theorem after_consistent_refusals :
    (after refusals).Consistent ∧ (after refusals).Agrees (Graph.after refusals) ∧
      (after refusals).assets.toList.map Asset.symbol = ["gem", "skr"] ∧
      (after refusals).edges.size = 2 ∧ (after refusals).between 0 1 = [0] ∧
      (after refusals).outbound 1 = .ok [1] ∧ (after refusals).containsKey across.key = true ∧
      ∃ error, (addEdge loop).run.run (after refusals) = (.error error, after refusals) := by
  obtain ⟨consistent, agrees, atomic⟩ := after_consistent refusals
  obtain ⟨error, y, failed⟩ := (atomic.fails_iff loop).mpr (.inr (.inl rfl))
  refine ⟨consistent, agrees, by decide, by decide, by decide, rfl, by decide, error, ?_⟩
  rw [failed, atomic.refused loop error y failed]

end Indexed

end Arbitrage.Graph
