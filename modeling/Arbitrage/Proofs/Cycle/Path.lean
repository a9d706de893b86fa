import Arbitrage.Cycle.Path
import Arbitrage.Proofs.Market.Graph

/-!
# What the check of a cycle accepts

`Leads a edges b` says that some edges lead from `a` to `b`, each from where the one before it ends.
The check of a path accepts exactly the closed trails at the base: known edges within the allowed
number that lead from the base back to it and use no market twice (`checkCycle_eq_ok_iff`).
-/

namespace Arbitrage.Graph

/-- Edges taken one after the other lead from one asset to another; no edge at all leads nowhere
else. -/
def Leads : AssetId → List Edge → AssetId → Prop
  | a, [], b => a = b
  | a, e :: edges, b => e.source = a ∧ Leads e.target edges b

@[simp] theorem leads_nil {a b : AssetId} : Leads a [] b ↔ a = b := Iff.rfl

@[simp] theorem leads_cons {a b : AssetId} {e : Edge} {edges : List Edge} :
    Leads a (e :: edges) b ↔ e.source = a ∧ Leads e.target edges b := Iff.rfl

section PathEdges

variable {g : Graph} {path : Path}

theorem edge_eq_ok_iff {id : EdgeId} {e : Edge} : g.edge id = .ok e ↔ g.edges[id]? = some e := by
  rw [edge]
  cases g.edges[id]? <;> simp

@[simp] theorem pathEdges_nil : g.pathEdges [] = .ok [] := rfl

theorem pathEdges_cons_eq_ok_iff {id : EdgeId} {all : List Edge} :
    g.pathEdges (id :: path) = .ok all ↔
      ∃ e edges, g.edges[id]? = some e ∧ g.pathEdges path = .ok edges ∧ all = e :: edges := by
  simp only [← edge_eq_ok_iff, pathEdges]
  cases g.edge id with
  | error e => simp
  | ok e => cases g.pathEdges path <;> simp [Except.map, eq_comm]

theorem pathEdges_eq_ok_iff {edges : List Edge} :
    g.pathEdges path = .ok edges ↔ path.map (g.edges[·]?) = edges.map some := by
  induction path generalizing edges with
  | nil => cases edges <;> simp
  | cons id path ih =>
      rw [pathEdges_cons_eq_ok_iff]
      simp only [ih]
      cases edges with
      | nil => simp
      | cons e edges =>
          constructor
          · rintro ⟨f, rest, found, known, same⟩
            cases same
            simp [found, known]
          · intro h
            simp only [List.map_cons, List.cons.injEq] at h
            exact ⟨e, edges, h.1, h.2, rfl⟩

theorem length_of_pathEdges {edges : List Edge} (h : g.pathEdges path = .ok edges) :
    edges.length = path.length := by
  simpa using (congrArg List.length (pathEdges_eq_ok_iff.mp h)).symm

theorem pathEdges_ne_nil {edges : List Edge} (h : g.pathEdges path = .ok edges)
    (nonempty : path ≠ []) : edges ≠ [] := by
  rintro rfl
  exact nonempty (List.eq_nil_of_length_eq_zero (length_of_pathEdges h).symm)

theorem mem_edges_of_pathEdges {edges : List Edge} (h : g.pathEdges path = .ok edges) :
    ∀ e ∈ edges, e ∈ g.edges := by
  intro e he
  have listed : some e ∈ path.map (g.edges[·]?) := by
    rw [pathEdges_eq_ok_iff.mp h]
    exact List.mem_map_of_mem he
  obtain ⟨id, -, found⟩ := List.mem_map.mp listed
  exact Array.mem_of_getElem? found

theorem exists_pathEdges (known : ∀ id ∈ path, id < g.edges.size) :
    ∃ edges, g.pathEdges path = .ok edges := by
  induction path with
  | nil => exact ⟨[], rfl⟩
  | cons id path ih =>
      obtain ⟨edges, rest⟩ := ih fun i hi => known i (List.mem_cons_of_mem _ hi)
      have bound := known id List.mem_cons_self
      exact ⟨g.edges[id] :: edges, pathEdges_cons_eq_ok_iff.mpr
        ⟨_, _, Array.getElem?_eq_getElem bound, rest, rfl⟩⟩

end PathEdges

theorem leads_iff (index : Nat) {a b : AssetId} {e : Edge} {edges : List Edge} :
    Leads a (e :: edges) b ↔ e.source = a ∧ firstGap? index (e :: edges) = none ∧
      (e :: edges).getLast?.any (·.target == b) = true := by
  induction edges generalizing a e index with
  | nil => simp [firstGap?]
  | cons f edges ih =>
      rw [leads_cons, ih (index + 1), firstGap?, List.getLast?_cons_cons]
      by_cases joined : e.target = f.source
      · simp [joined]
      · simp [joined, Ne.symm joined]

theorem firstRepeat?_eq_none_iff {seen : List EdgeKey} {edges : List Edge} :
    firstRepeat? seen edges = none ↔
      (edges.map Edge.key).Nodup ∧ ∀ e ∈ edges, e.key ∉ seen := by
  induction edges generalizing seen with
  | nil => simp [firstRepeat?]
  | cons e edges ih =>
      rw [firstRepeat?, List.contains_eq_mem]
      by_cases used : e.key ∈ seen
      · simp [used]
      · simp only [used, decide_false, Bool.false_eq_true, if_false, ih, List.map_cons,
          List.nodup_cons, List.mem_cons, List.mem_map]
        grind

theorem firstRepeat?_nil_eq_none_iff {edges : List Edge} :
    firstRepeat? [] edges = none ↔ (edges.map Edge.key).Nodup := by
  simp [firstRepeat?_eq_none_iff]

/-- The check accepts the closed trails at the base of two up to `maxDepth` edges. -/
theorem checkCycle_eq_ok_iff {g : Graph} {base : AssetId} {maxDepth : Nat} {path : Path} :
    g.checkCycle base maxDepth path = .ok () ↔
      minPathLength ≤ path.length ∧ path.length ≤ maxDepth ∧
        ∃ edges, g.pathEdges path = .ok edges ∧ Leads base edges base ∧
          (edges.map Edge.key).Nodup := by
  rw [checkCycle]
  by_cases short : path.length < minPathLength
  · have : ¬ minPathLength ≤ path.length := by omega
    simp only [short, this]
    split <;> simp
  have nonempty : path ≠ [] := by
    rintro rfl
    exact short (by decide)
  by_cases long : maxDepth < path.length
  · have : ¬ path.length ≤ maxDepth := by omega
    simp [nonempty, short, long, this]
  cases known : g.pathEdges path with
  | error e => simp [nonempty, short, long]
  | ok edges =>
      have same := length_of_pathEdges known
      cases edges with
      | nil => exact absurd (List.eq_nil_of_length_eq_zero same.symm) nonempty
      | cons e rest =>
          have bounds : minPathLength ≤ path.length ∧ path.length ≤ maxDepth := by omega
          simp only [nonempty, short, long, List.isEmpty_iff, if_false, bounds, true_and,
            Except.ok.injEq, exists_eq_left', leads_iff 0, ← firstRepeat?_nil_eq_none_iff]
          cases firstGap? 0 (e :: rest) with
          | some index => simp
          | none =>
              cases firstRepeat? [] (e :: rest) with
              | some key =>
                  by_cases closed : closesAt base (e :: rest) = true <;> simp [closed]
              | none => simp [closesAt]

end Arbitrage.Graph
