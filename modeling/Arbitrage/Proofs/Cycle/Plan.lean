import Arbitrage.Cycle.Plan
import Arbitrage.Proofs.Amount.Rate
import Arbitrage.Proofs.Cycle.Path

/-!
# How plans are derived

A plan sizes the edges of a path one after the other. `deriveSteps_cons_eq_ok_iff` and
`derive_eq_ok_iff` say everything about a derivation that succeeds; later arguments go through them
and never look at the recursion again. On a graph built by additions nothing but a capacity can stop
a derivation (`exists_derive_iff`), and `through` is the amount at which it stands. What has been
derived carries exactly these amounts from one step to the next (`Carries`).
-/

namespace Arbitrage

/-- What an amount has become after some edges, rounded down at each of them. -/
def through (edges : List Edge) (input : Wad) : Wad := edges.foldl (fun x e => e.output x) input

@[simp] theorem through_nil (input : Wad) : through [] input = input := rfl

@[simp] theorem through_cons (e : Edge) (edges : List Edge) (input : Wad) :
    through (e :: edges) input = through edges (e.output input) := rfl

/-- The exact value of the rate of some edges taken one after the other. -/
def exactRate (edges : List Edge) : ℚ := (edges.map fun e => e.rate.value).prod

@[simp] theorem exactRate_nil : exactRate [] = 1 := rfl

@[simp] theorem exactRate_cons (e : Edge) (edges : List Edge) :
    exactRate (e :: edges) = e.rate.value * exactRate edges := by simp [exactRate]

theorem exactRate_nonneg (edges : List Edge) : 0 ≤ exactRate edges := by
  induction edges with
  | nil => simp
  | cons e edges ih =>
      rw [exactRate_cons]
      exact mul_nonneg e.rate.value_nonneg ih

theorem raw_through_le (edges : List Edge) (input : Wad) :
    ((through edges input).raw : ℚ) ≤ input.raw * exactRate edges := by
  induction edges generalizing input with
  | nil => simp
  | cons e edges ih =>
      calc ((through (e :: edges) input).raw : ℚ)
          ≤ (e.output input).raw * exactRate edges := ih (e.output input)
        _ ≤ input.raw * e.rate.value * exactRate edges :=
            mul_le_mul_of_nonneg_right (e.raw_output_le input) (exactRate_nonneg edges)
        _ = input.raw * exactRate (e :: edges) := by rw [exactRate_cons, mul_assoc]

namespace Plan

variable {g : Graph}

/-- A step is derived if its edge admits the input and joins two known assets. -/
theorem deriveStep_eq_ok_iff {index : Nat} {id : EdgeId} {edge : Edge} {input : Wad} {step : Step} :
    deriveStep g index id edge input = .ok step ↔
      (∀ limit ∈ edge.maxInput?, input ≤ limit) ∧ ∃ source target,
        g.assets[edge.source]? = some source ∧ g.assets[edge.target]? = some target ∧
          step = ⟨id, edge, source, target, input, edge.output input⟩ := by
  have assets : deriveStep.assets g id edge input = .ok step ↔ ∃ source target,
      g.assets[edge.source]? = some source ∧ g.assets[edge.target]? = some target ∧
        step = ⟨id, edge, source, target, input, edge.output input⟩ := by
    simp only [deriveStep.assets, Graph.asset]
    cases g.assets[edge.source]? <;> cases g.assets[edge.target]? <;> simp [eq_comm]
  rw [deriveStep]
  cases edge.maxInput? with
  | none => simp [assets]
  | some limit =>
      by_cases within : limit < input
      · have : ¬ input ≤ limit := Nat.not_le_of_lt within
        simp [within, this]
      · have : input ≤ limit := Nat.le_of_not_lt within
        simp [within, this, assets]

/-- The steps of some edges: the first is derived from the input, the others from its output. -/
theorem deriveSteps_cons_eq_ok_iff {index : Nat} {id : EdgeId} {edge : Edge}
    {edges : List (EdgeId × Edge)} {input : Wad} {steps : List Step} :
    deriveSteps g index ((id, edge) :: edges) input = .ok steps ↔
      (∀ limit ∈ edge.maxInput?, input ≤ limit) ∧ ∃ source target rest,
        g.assets[edge.source]? = some source ∧ g.assets[edge.target]? = some target ∧
          deriveSteps g (index + 1) edges (edge.output input) = .ok rest ∧
          steps = ⟨id, edge, source, target, input, edge.output input⟩ :: rest := by
  rw [deriveSteps]
  cases derived : deriveStep g index id edge input with
  | error e =>
      have none : ∀ step, deriveStep g index id edge input ≠ .ok step := by simp [derived]
      simp only [ne_eq, deriveStep_eq_ok_iff] at none
      simp only [reduceCtorEq, false_iff, not_and, not_exists]
      intro within source target rest hs ht
      exact absurd ⟨within, source, target, hs, ht, rfl⟩ (none _)
  | ok step =>
      obtain ⟨within, source, target, hs, ht, rfl⟩ := deriveStep_eq_ok_iff.mp derived
      cases derived_rest : deriveSteps g (index + 1) edges (edge.output input) with
      | error e => simp [derived_rest, Except.map]
      | ok rest =>
          simp only [derived_rest, Except.map, Except.ok.injEq]
          constructor
          · rintro rfl
            exact ⟨within, source, target, rest, hs, ht, rfl, rfl⟩
          · rintro ⟨-, source', target', rest', hs', ht', rfl, rfl⟩
            obtain rfl := Option.some.inj (hs.symm.trans hs')
            obtain rfl := Option.some.inj (ht.symm.trans ht')
            rfl

theorem deriveSteps_nil {index : Nat} {input : Wad} : deriveSteps g index [] input = .ok [] := rfl

theorem derive_eq_ok_iff {path : Path} {input : Wad} {plan : Plan} :
    derive g path input = .ok plan ↔
      path ≠ [] ∧ ∃ edges steps, g.pathEdges path = .ok edges ∧
        deriveSteps g 0 (path.zip edges) input = .ok steps ∧
        plan = ⟨path, steps, input, lastOutput input steps⟩ := by
  rw [derive]
  cases path with
  | nil => simp
  | cons id path =>
      simp only [List.isEmpty_cons, Bool.false_eq_true, if_false]
      cases g.pathEdges (id :: path) with
      | error e => simp
      | ok edges =>
          cases derived : deriveSteps g 0 ((id :: path).zip edges) input with
          | error e => simp [derived]
          | ok steps =>
              simp only [derived, Except.ok.injEq]
              constructor
              · rintro rfl
                exact ⟨by simp, edges, steps, rfl, derived, rfl⟩
              · rintro ⟨-, edges', steps', rfl, derived', rfl⟩
                obtain rfl := Except.ok.inj (derived.symm.trans derived')
                rfl

theorem length_of_deriveSteps {index : Nat} {edges : List (EdgeId × Edge)} {input : Wad}
    {steps : List Step} (derived : deriveSteps g index edges input = .ok steps) :
    steps.length = edges.length := by
  induction edges generalizing index input steps with
  | nil =>
      obtain rfl := Except.ok.inj derived
      rfl
  | cons edge edges ih =>
      obtain ⟨-, _, _, rest, -, -, others, rfl⟩ := deriveSteps_cons_eq_ok_iff.mp derived
      rw [List.length_cons, List.length_cons, ih others]

theorem path_of_derive {path : Path} {input : Wad} {plan : Plan}
    (derived : derive g path input = .ok plan) : plan.path = path := by
  obtain ⟨-, _, _, -, -, rfl⟩ := derive_eq_ok_iff.mp derived
  rfl

theorem length_of_derive {path : Path} {input : Wad} {plan : Plan}
    (derived : derive g path input = .ok plan) : plan.length = path.length := by
  obtain ⟨-, edges, steps, known, stepped, rfl⟩ := derive_eq_ok_iff.mp derived
  rw [length, length_of_deriveSteps stepped, List.length_zip, Graph.length_of_pathEdges known,
    Nat.min_self]

theorem lastOutput_cons (x : Wad) (step : Step) (steps : List Step) :
    lastOutput x (step :: steps) = lastOutput step.amountOut steps := by
  rw [lastOutput]
  cases steps with
  | nil => rfl
  | cons next rest => rw [List.getLast?_cons_cons, List.getLast?_eq_some_getLast (by simp)]; rfl

theorem lastOutput_of_deriveSteps {index : Nat} {path : Path} {edges : List Edge} {input : Wad}
    {steps : List Step} (same : path.length = edges.length)
    (derived : deriveSteps g index (path.zip edges) input = .ok steps) :
    lastOutput input steps = through edges input := by
  induction edges generalizing path index input steps with
  | nil =>
      rw [List.zip_nil_right, deriveSteps_nil] at derived
      cases derived
      rfl
  | cons e edges ih =>
      cases path with
      | nil => simp at same
      | cons id path =>
          obtain ⟨-, _, _, rest, -, -, others, rfl⟩ := deriveSteps_cons_eq_ok_iff.mp derived
          rw [lastOutput_cons, through_cons]
          exact ih (by simpa using same) others

/-- What comes out of a plan is what the edges of its path make of the input, one after the other
and each rounding down. -/
theorem output_of_derive {path : Path} {edges : List Edge} {input : Wad} {plan : Plan}
    (known : g.pathEdges path = .ok edges) (derived : derive g path input = .ok plan) :
    plan.output = through edges input := by
  obtain ⟨-, edges', steps, known', stepped, rfl⟩ := derive_eq_ok_iff.mp derived
  obtain rfl := Except.ok.inj (known.symm.trans known')
  exact lastOutput_of_deriveSteps (Graph.length_of_pathEdges known).symm stepped

/-- On edges of a well-formed graph, steps are derived if every edge admits what reaches it. -/
theorem exists_deriveSteps (wf : g.WellFormed) (index : Nat) (input : Wad) {path : Path}
    {edges : List Edge} (same : path.length = edges.length) (member : ∀ e ∈ edges, e ∈ g.edges)
    (within : ∀ i (h : i < edges.length), ∀ limit ∈ edges[i].maxInput?,
      through (edges.take i) input ≤ limit) :
    ∃ steps, deriveSteps g index (path.zip edges) input = .ok steps := by
  induction edges generalizing path input index with
  | nil => exact ⟨[], by simp [deriveSteps_nil]⟩
  | cons e edges ih =>
      cases path with
      | nil => simp at same
      | cons id path =>
          have first : ∀ limit ∈ e.maxInput?, input ≤ limit := within 0 (by simp)
          obtain ⟨rest, derived⟩ := ih (index + 1) (e.output input)
            (by simpa using same : path.length = edges.length)
            (fun f hf => member f (List.mem_cons_of_mem _ hf))
            (fun i h => within (i + 1) (by simpa using h))
          have source := wf.source_lt e (member e List.mem_cons_self)
          have target := wf.target_lt e (member e List.mem_cons_self)
          exact ⟨_, deriveSteps_cons_eq_ok_iff.mpr ⟨first, _, _, rest,
            Array.getElem?_eq_getElem source, Array.getElem?_eq_getElem target, derived, rfl⟩⟩

section Amounts

variable {path : Path} {edges : List Edge} {x : Wad}

/-- A plan carries the amounts of a path: each step takes up what the steps before it have made of
the input and puts out what the next one takes up, and the last one's is the output. -/
structure Carries (plan : Plan) (path : Path) (edges : List Edge) (x : Wad) : Prop where
  path_eq : plan.path = path
  engagement_eq : plan.engagement = x
  length_eq : plan.steps.length = edges.length
  step : ∀ i step, plan.steps[i]? = some step →
    path[i]? = some step.edgeId ∧ edges[i]? = some step.edge ∧
      step.amountIn = through (edges.take i) x ∧ step.amountOut = through (edges.take (i + 1)) x
  output_eq : plan.output = through edges x

theorem step_of_deriveSteps {index : Nat} {steps : List Step}
    (derived : deriveSteps g index (path.zip edges) x = .ok steps) {i : Nat} {step : Step}
    (listed : steps[i]? = some step) :
    path[i]? = some step.edgeId ∧ edges[i]? = some step.edge ∧
      step.amountIn = through (edges.take i) x ∧
      step.amountOut = through (edges.take (i + 1)) x := by
  induction edges generalizing path index x steps i with
  | nil =>
      rw [List.zip_nil_right, deriveSteps_nil] at derived
      cases derived
      cases listed
  | cons e edges ih =>
      cases path with
      | nil =>
          cases derived
          cases listed
      | cons id path =>
          obtain ⟨-, source, target, rest, -, -, others, rfl⟩ := deriveSteps_cons_eq_ok_iff.mp derived
          cases i with
          | zero =>
              cases listed
              exact ⟨rfl, rfl, rfl, rfl⟩
          | succ i => exact ih others listed

theorem carries_of_derive {plan : Plan} (known : g.pathEdges path = .ok edges)
    (derived : derive g path x = .ok plan) : plan.Carries path edges x := by
  have output := output_of_derive known derived
  have length := length_of_derive derived
  rw [← Graph.length_of_pathEdges known] at length
  obtain ⟨-, edges', steps, known', stepped, rfl⟩ := derive_eq_ok_iff.mp derived
  obtain rfl := Except.ok.inj (known.symm.trans known')
  exact ⟨rfl, rfl, length, fun i step => step_of_deriveSteps stepped, output⟩

theorem within_of_deriveSteps {index : Nat} {steps : List Step} (same : path.length = edges.length)
    (derived : deriveSteps g index (path.zip edges) x = .ok steps) :
    ∀ i (h : i < edges.length), ∀ limit ∈ edges[i].maxInput?, through (edges.take i) x ≤ limit := by
  induction edges generalizing path index x steps with
  | nil => nofun
  | cons e edges ih =>
      cases path with
      | nil => simp at same
      | cons id path =>
          obtain ⟨within, source, target, rest, -, -, others, rfl⟩ :=
            deriveSteps_cons_eq_ok_iff.mp derived
          intro i h
          cases i with
          | zero => exact within
          | succ i => exact ih (by simpa using same) others i (by simpa using h)

/-- On a well-formed graph a plan can be derived exactly if no amount exceeds a capacity. -/
theorem exists_derive_iff (wf : g.WellFormed) (known : g.pathEdges path = .ok edges) :
    (∃ plan, derive g path x = .ok plan) ↔ path ≠ [] ∧
      ∀ i (h : i < edges.length), ∀ limit ∈ edges[i].maxInput?, through (edges.take i) x ≤ limit := by
  have same := (Graph.length_of_pathEdges known).symm
  constructor
  · rintro ⟨plan, derived⟩
    obtain ⟨nonempty, edges', steps, known', stepped, rfl⟩ := derive_eq_ok_iff.mp derived
    obtain rfl := Except.ok.inj (known.symm.trans known')
    exact ⟨nonempty, within_of_deriveSteps same stepped⟩
  · rintro ⟨nonempty, within⟩
    obtain ⟨steps, stepped⟩ :=
      exists_deriveSteps wf 0 x same (Graph.mem_edges_of_pathEdges known) within
    exact ⟨_, derive_eq_ok_iff.mpr ⟨nonempty, edges, steps, known, stepped, rfl⟩⟩

end Amounts

end Plan

end Arbitrage
