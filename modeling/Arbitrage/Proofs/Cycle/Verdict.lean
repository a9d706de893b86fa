import Arbitrage.Proofs.Cycle.Search
import Mathlib.Data.List.Chain

/-!
# What the check of a cycle reports

The check goes through its conditions one after the other, and three of them are searches along the
path: for an edge that is not known, for two edges that do not connect, and for a market that is
used again. `Verdict` says what is to be reported without any search, by cutting the path at the
first place where a condition fails, and the check reports exactly that (`checkCycle_exact`). On a
graph built by additions no two edges have one key, so a market is used again exactly where a number
comes again, and a path can be judged by its numbers alone.
-/

namespace Arbitrage.Graph

/-- Both edges are known, and the second starts where the first one ends. -/
def Meets (g : Graph) (id next : EdgeId) : Prop :=
  ∃ e f, g.edges[id]? = some e ∧ g.edges[next]? = some f ∧ e.target = f.source

/-- The first edge of a path is known and leaves an asset, and the last one is known and enters it. -/
def ClosedAt (g : Graph) (base : AssetId) (path : Path) : Prop :=
  (∃ e, path.head?.bind (g.edges[·]?) = some e ∧ e.source = base) ∧
    ∃ e, path.getLast?.bind (g.edges[·]?) = some e ∧ e.target = base

/-- A path has at least two edges and no more than allowed. -/
def Sized (maxDepth : Nat) (path : Path) : Prop :=
  minPathLength ≤ path.length ∧ path.length ≤ maxDepth

def Known (g : Graph) (path : Path) : Prop := ∀ id ∈ path, id < g.edges.size

/-- What there is to say about a path: the first condition that fails, or that none does. -/
inductive Verdict (g : Graph) (base : AssetId) (maxDepth : Nat) (path : Path) :
    Except PathError Unit → Prop
  | empty (nothing : path = []) : g.Verdict base maxDepth path (.error .empty)
  | tooShort (nonempty : path ≠ []) (short : path.length < minPathLength) :
      g.Verdict base maxDepth path (.error (.tooShort minPathLength path.length))
  | tooLong (enough : minPathLength ≤ path.length) (long : maxDepth < path.length) :
      g.Verdict base maxDepth path (.error (.tooLong maxDepth path.length))
  /-- The edge after a known part of the path is not known. -/
  | unknown {before after : Path} {id : EdgeId} (sized : Sized maxDepth path)
      (cut : path = before ++ id :: after) (known : g.Known before) (missing : g.edges.size ≤ id) :
      g.Verdict base maxDepth path (.error (.invalid (GraphError.invalidEdgeIndex id).message))
  /-- The edge after a connected part of the path does not start where that part ends. -/
  | disconnected {before after : Path} {id next : EdgeId} (sized : Sized maxDepth path)
      (known : g.Known path) (cut : path = before ++ id :: next :: after)
      (joined : (before ++ [id]).IsChain g.Meets) (gap : ¬ g.Meets id next) :
      g.Verdict base maxDepth path (.error (.disconnected before.length (before.length + 1)))
  | notCycle (sized : Sized maxDepth path) (known : g.Known path) (joined : path.IsChain g.Meets)
      (isOpen : ¬ g.ClosedAt base path) : g.Verdict base maxDepth path (.error .notCycle)
  /-- The edge after a part of the path without repetitions occurs in that part. -/
  | repeated {before after : Path} {id : EdgeId} {e : Edge} (sized : Sized maxDepth path)
      (known : g.Known path) (joined : path.IsChain g.Meets) (closed : g.ClosedAt base path)
      (cut : path = before ++ id :: after) (distinct : before.Nodup) (again : id ∈ before)
      (found : g.edges[id]? = some e) :
      g.Verdict base maxDepth path (.error (.repeatedEdge e.key.text))
  | ok (sized : Sized maxDepth path) (known : g.Known path) (joined : path.IsChain g.Meets)
      (closed : g.ClosedAt base path) (distinct : path.Nodup) : g.Verdict base maxDepth path (.ok ())

variable {g : Graph} {base : AssetId} {maxDepth : Nat} {path : Path} {edges : List Edge}

theorem known_of_pathEdges (known : g.pathEdges path = .ok edges) : g.Known path := by
  intro id listed
  have present : g.edges[id]? ∈ path.map (g.edges[·]?) := List.mem_map_of_mem listed
  rw [pathEdges_eq_ok_iff.mp known] at present
  obtain ⟨e, -, found⟩ := List.mem_map.mp present
  exact (Array.getElem?_eq_some_iff.mp found.symm).1

section Searches

/-- The edges of a path are not to be had exactly if one of them is unknown; the first one of these
is reported. -/
theorem pathEdges_eq_error_iff {error : PathError} :
    g.pathEdges path = .error error ↔ ∃ before id after, path = before ++ id :: after ∧
      g.Known before ∧ g.edges.size ≤ id ∧
        error = .invalid (GraphError.invalidEdgeIndex id).message := by
  induction path with
  | nil => simp
  | cons id path ih =>
      by_cases present : id < g.edges.size
      · have step : g.pathEdges (id :: path) = .error error ↔ g.pathEdges path = .error error := by
          rw [pathEdges, edge_eq_ok_iff.mpr (Array.getElem?_eq_getElem present)]
          cases g.pathEdges path <;> simp [Except.map]
        rw [step, ih]
        constructor
        · rintro ⟨before, i, after, rfl, known, missing, same⟩
          exact ⟨id :: before, i, after, rfl, List.forall_mem_cons.mpr ⟨present, known⟩, missing, same⟩
        · rintro ⟨before, i, after, cut, known, missing, same⟩
          rcases List.cons_eq_append_iff.mp cut with ⟨-, here⟩ | ⟨before, rfl, rest⟩
          · cases here
            exact absurd present (Nat.not_lt_of_le missing)
          · exact ⟨before, i, after, rest, (List.forall_mem_cons.mp known).2, missing, same⟩
      · have missing : g.edges.size ≤ id := Nat.le_of_not_lt present
        have reported : g.pathEdges (id :: path) =
            .error (.invalid (GraphError.invalidEdgeIndex id).message) := by
          rw [pathEdges, edge, Array.getElem?_eq_none missing]
        rw [reported]
        constructor
        · rintro ⟨⟩
          exact ⟨[], id, path, rfl, List.forall_mem_nil _, missing, rfl⟩
        · rintro ⟨before, i, after, cut, known, -, rfl⟩
          rcases List.cons_eq_append_iff.mp cut with ⟨-, here⟩ | ⟨before, rfl, -⟩
          · cases here
            rfl
          · exact absurd (List.forall_mem_cons.mp known).1 present

theorem meets_iff {id next : EdgeId} {e f : Edge} (found : g.edges[id]? = some e)
    (found' : g.edges[next]? = some f) : g.Meets id next ↔ e.target = f.source := by
  constructor
  · rintro ⟨_, _, again, again', joined⟩
    cases found.symm.trans again
    cases found'.symm.trans again'
    exact joined
  · intro joined
    exact ⟨e, f, found, found', joined⟩

theorem firstGap?_eq_none_iff (known : g.pathEdges path = .ok edges) (index : Nat) :
    firstGap? index edges = none ↔ path.IsChain g.Meets := by
  induction path generalizing edges index with
  | nil =>
      cases known
      simp [firstGap?]
  | cons id path ih =>
      obtain ⟨e, rest, found, rest_known, rfl⟩ := pathEdges_cons_eq_ok_iff.mp known
      cases path with
      | nil =>
          cases rest_known
          simp [firstGap?]
      | cons next path =>
          have later := ih rest_known (index + 1)
          obtain ⟨f, rest, found', -, rfl⟩ := pathEdges_cons_eq_ok_iff.mp rest_known
          rw [List.isChain_cons_cons, ← later, meets_iff found found', firstGap?]
          by_cases joined : e.target = f.source <;> simp [joined]

/-- The first gap is after the longest part of a path that is connected, counted from where the path
starts. -/
theorem firstGap?_eq_some_iff (known : g.pathEdges path = .ok edges) (index : Nat) {place : Nat} :
    firstGap? index edges = some place ↔
      ∃ before id next after, path = before ++ id :: next :: after ∧
        (before ++ [id]).IsChain g.Meets ∧ ¬ g.Meets id next ∧ place = index + before.length := by
  induction path generalizing edges index with
  | nil =>
      cases known
      simp [firstGap?]
  | cons id path ih =>
      obtain ⟨e, rest, found, rest_known, rfl⟩ := pathEdges_cons_eq_ok_iff.mp known
      cases path with
      | nil =>
          cases rest_known
          simp [firstGap?, List.cons_eq_append_iff]
      | cons next path =>
          have later := ih rest_known (index + 1)
          obtain ⟨f, rest, found', -, rfl⟩ := pathEdges_cons_eq_ok_iff.mp rest_known
          rw [firstGap?]
          by_cases joined : e.target = f.source
          · have meets : g.Meets id next := (meets_iff found found').mpr joined
            rw [if_pos joined, later]
            constructor
            · rintro ⟨before, i, j, after, cut, chain, gap, rfl⟩
              refine ⟨id :: before, i, j, after, by rw [cut]; rfl, ?_, gap, ?_⟩
              · cases before <;> (cases cut; exact List.isChain_cons_cons.mpr ⟨meets, chain⟩)
              · simp only [List.length_cons]
                omega
            · rintro ⟨before, i, j, after, cut, chain, gap, rfl⟩
              rcases List.cons_eq_append_iff.mp cut with ⟨-, here⟩ | ⟨before, rfl, rest⟩
              · cases here
                exact absurd meets gap
              · refine ⟨before, i, j, after, rest, chain.tail, gap, ?_⟩
                simp only [List.length_cons]
                omega
          · have gap : ¬ g.Meets id next := mt (meets_iff found found').mp joined
            rw [if_neg joined]
            constructor
            · rintro ⟨⟩
              exact ⟨[], id, next, path, rfl, List.isChain_singleton _, gap, rfl⟩
            · rintro ⟨before, i, j, after, cut, chain, -, rfl⟩
              rcases List.cons_eq_append_iff.mp cut with ⟨rfl, -⟩ | ⟨before, rfl, rest⟩
              · rfl
              · cases before <;> (cases rest; exact absurd (List.isChain_cons_cons.mp chain).1 gap)

/-- The first market used again is that of the edge after the longest part without repetitions. -/
theorem firstRepeat?_eq_some_iff {seen : List EdgeKey} {key : EdgeKey} :
    firstRepeat? seen edges = some key ↔ ∃ before e after, edges = before ++ e :: after ∧
      firstRepeat? seen before = none ∧ (e.key ∈ seen ∨ e.key ∈ before.map Edge.key) ∧
        key = e.key := by
  induction edges generalizing seen with
  | nil => simp [firstRepeat?]
  | cons d edges ih =>
      rw [firstRepeat?, List.contains_eq_mem]
      by_cases used : d.key ∈ seen
      · simp only [used, decide_true, if_true, Option.some.injEq]
        constructor
        · rintro rfl
          exact ⟨[], d, edges, rfl, rfl, .inl used, rfl⟩
        · rintro ⟨before, e, after, cut, distinct, -, rfl⟩
          rcases List.cons_eq_append_iff.mp cut with ⟨-, here⟩ | ⟨before, rfl, -⟩
          · cases here
            rfl
          · simp [firstRepeat?, used] at distinct
      · simp only [used, decide_false, Bool.false_eq_true, if_false, ih]
        constructor
        · rintro ⟨before, e, after, rfl, distinct, again, same⟩
          refine ⟨d :: before, e, after, rfl, by simpa [firstRepeat?, used] using distinct, ?_, same⟩
          rcases again with again | again
          · rcases List.mem_cons.mp again with first | again
            · exact .inr (by simp [first])
            · exact .inl again
          · exact .inr (by simp_all)
        · rintro ⟨before, e, after, cut, distinct, again, same⟩
          rcases List.cons_eq_append_iff.mp cut with ⟨rfl, here⟩ | ⟨before, rfl, rest⟩
          · cases here
            simp [used] at again
          · refine ⟨before, e, after, rest, by simpa [firstRepeat?, used] using distinct, ?_, same⟩
            rcases again with again | again
            · exact .inl (List.mem_cons_of_mem _ again)
            · rcases List.mem_cons.mp again with first | again
              · exact .inl (by simp [first])
              · exact .inr again

end Searches

section Numbers

/-- Two edges of a graph have one key only if they have one number. -/
theorem WellFormed.key_eq_iff (wf : g.WellFormed) {id next : EdgeId} {e f : Edge}
    (found : g.edges[id]? = some e) (found' : g.edges[next]? = some f) :
    e.key = f.key ↔ id = next := by
  constructor
  · intro same
    have bound : id < (g.edges.toList.map Edge.key).length := by
      simpa using (Array.getElem?_eq_some_iff.mp found).1
    refine (List.getElem?_inj bound wf.keys).mp ?_
    simp [found, found', same]
  · rintro rfl
    cases found.symm.trans found'
    rfl

theorem key_mem_iff (wf : g.WellFormed) (known : g.pathEdges path = .ok edges) {id : EdgeId}
    {e : Edge} (found : g.edges[id]? = some e) : e.key ∈ edges.map Edge.key ↔ id ∈ path := by
  induction path generalizing edges with
  | nil =>
      cases known
      simp
  | cons next path ih =>
      obtain ⟨f, rest, found', rest_known, rfl⟩ := pathEdges_cons_eq_ok_iff.mp known
      rw [List.map_cons, List.mem_cons, List.mem_cons, ih rest_known, wf.key_eq_iff found found']

theorem nodup_keys_iff (wf : g.WellFormed) (known : g.pathEdges path = .ok edges) :
    (edges.map Edge.key).Nodup ↔ path.Nodup := by
  induction path generalizing edges with
  | nil =>
      cases known
      simp
  | cons id path ih =>
      obtain ⟨e, rest, found, rest_known, rfl⟩ := pathEdges_cons_eq_ok_iff.mp known
      rw [List.map_cons, List.nodup_cons, List.nodup_cons, ih rest_known,
        key_mem_iff wf rest_known found]

theorem pathEdges_append_eq_ok_iff {before after : Path} :
    g.pathEdges (before ++ after) = .ok edges ↔ ∃ es fs, g.pathEdges before = .ok es ∧
      g.pathEdges after = .ok fs ∧ edges = es ++ fs := by
  simp only [pathEdges_eq_ok_iff]
  rw [List.map_append, eq_comm, List.map_eq_append_iff]
  grind

theorem closesAt_iff (known : g.pathEdges path = .ok edges) :
    closesAt base edges = true ↔ g.ClosedAt base path := by
  have same := pathEdges_eq_ok_iff.mp known
  have unwrap : ∀ (id : Option EdgeId) (e : Option Edge),
      id.map (g.edges[·]?) = e.map some → id.bind (g.edges[·]?) = e := by
    rintro (_ | _) (_ | _) <;> simp
  have first : path.head?.bind (g.edges[·]?) = edges.head? :=
    unwrap _ _ (by rw [← List.head?_map, ← List.head?_map, same])
  have last : path.getLast?.bind (g.edges[·]?) = edges.getLast? :=
    unwrap _ _ (by rw [← List.getLast?_map, ← List.getLast?_map, same])
  rw [closesAt, ClosedAt, first, last]
  simp only [Bool.and_eq_true, Option.any_eq_true, beq_iff_eq]

/-- Along a path of known edges the first market used again is that of the first number that comes
again. -/
theorem firstRepeat?_path_iff (wf : g.WellFormed) (known : g.pathEdges path = .ok edges)
    {key : EdgeKey} :
    firstRepeat? [] edges = some key ↔ ∃ before id after e, path = before ++ id :: after ∧
      before.Nodup ∧ id ∈ before ∧ g.edges[id]? = some e ∧ key = e.key := by
  simp only [firstRepeat?_eq_some_iff, firstRepeat?_nil_eq_none_iff, List.not_mem_nil, false_or]
  constructor
  · rintro ⟨es, e, fs, rfl, distinct, again, rfl⟩
    have same := pathEdges_eq_ok_iff.mp known
    rw [List.map_append, List.map_eq_append_iff] at same
    obtain ⟨before, rest, rfl, before_eq, rest_eq⟩ := same
    obtain ⟨id, after, rfl, found, -⟩ := List.map_eq_cons_iff.mp rest_eq
    have before_known := pathEdges_eq_ok_iff.mpr before_eq
    exact ⟨before, id, after, e, rfl, (nodup_keys_iff wf before_known).mp distinct,
      (key_mem_iff wf before_known found).mp again, found, rfl⟩
  · rintro ⟨before, id, after, e, rfl, distinct, again, found, rfl⟩
    obtain ⟨es, rest, before_known, rest_known, rfl⟩ := pathEdges_append_eq_ok_iff.mp known
    obtain ⟨f, fs, found', -, rfl⟩ := pathEdges_cons_eq_ok_iff.mp rest_known
    cases found.symm.trans found'
    exact ⟨es, e, fs, rfl, (nodup_keys_iff wf before_known).mpr distinct,
      (key_mem_iff wf before_known found).mpr again, rfl⟩

end Numbers

theorem Sized.passes (sized : Sized maxDepth path) :
    path.isEmpty = false ∧ ¬ path.length < minPathLength ∧ ¬ maxDepth < path.length := by
  refine ⟨?_, Nat.not_lt_of_le sized.1, Nat.not_lt_of_le sized.2⟩
  cases path with
  | nil => exact absurd sized.1 (by decide)
  | cons id path => rfl

/-- Whatever the check reports is the verdict. -/
theorem verdict_checkCycle (wf : g.WellFormed) (base : AssetId) (maxDepth : Nat) (path : Path) :
    g.Verdict base maxDepth path (g.checkCycle base maxDepth path) := by
  rw [checkCycle]
  by_cases nothing : path = []
  · rw [if_pos (List.isEmpty_iff.mpr nothing)]
    exact .empty nothing
  rw [if_neg (mt List.isEmpty_iff.mp nothing)]
  by_cases short : path.length < minPathLength
  · rw [if_pos short]
    exact .tooShort nothing short
  rw [if_neg short]
  by_cases long : maxDepth < path.length
  · rw [if_pos long]
    exact .tooLong (Nat.le_of_not_lt short) long
  rw [if_neg long]
  have sized : Sized maxDepth path := ⟨Nat.le_of_not_lt short, Nat.le_of_not_lt long⟩
  cases edges_eq : g.pathEdges path with
  | error error =>
      obtain ⟨before, id, after, cut, known, missing, rfl⟩ := pathEdges_eq_error_iff.mp edges_eq
      exact .unknown sized cut known missing
  | ok edges =>
      have known := known_of_pathEdges edges_eq
      dsimp only
      cases gap : firstGap? 0 edges with
      | some place =>
          obtain ⟨before, id, next, after, cut, joined, apart, rfl⟩ :=
            (firstGap?_eq_some_iff edges_eq 0).mp gap
          rw [Nat.zero_add]
          exact .disconnected sized known cut joined apart
      | none =>
          have joined := (firstGap?_eq_none_iff edges_eq 0).mp gap
          dsimp only
          by_cases closed : closesAt base edges = true
          · rw [if_pos closed]
            have closed := (closesAt_iff edges_eq).mp closed
            cases again : firstRepeat? [] edges with
            | some key =>
                obtain ⟨before, id, after, e, cut, distinct, listed, found, rfl⟩ :=
                  (firstRepeat?_path_iff wf edges_eq).mp again
                exact .repeated sized known joined closed cut distinct listed found
            | none =>
                rw [firstRepeat?_nil_eq_none_iff, nodup_keys_iff wf edges_eq] at again
                exact .ok sized known joined closed again
          · rw [if_neg closed]
            exact .notCycle sized known joined (mt (closesAt_iff edges_eq).mpr closed)

/-- The verdict is what the check reports, so that there is no more than one verdict about a
path. -/
theorem checkCycle_of_verdict (wf : g.WellFormed) {r : Except PathError Unit}
    (verdict : g.Verdict base maxDepth path r) : g.checkCycle base maxDepth path = r := by
  cases verdict with
  | empty nothing =>
      rw [nothing]
      rfl
  | tooShort nonempty short =>
      rw [checkCycle, if_neg (mt List.isEmpty_iff.mp nonempty), if_pos short]
  | tooLong enough long =>
      have nonempty : path ≠ [] := by
        rintro rfl
        exact absurd enough (by decide)
      rw [checkCycle, if_neg (mt List.isEmpty_iff.mp nonempty), if_neg (Nat.not_lt_of_le enough),
        if_pos long]
  | unknown sized cut known missing =>
      obtain ⟨filled, enough, within⟩ := sized.passes
      have edges_eq := pathEdges_eq_error_iff.mpr ⟨_, _, _, cut, known, missing, rfl⟩
      simp only [checkCycle, filled, enough, within, Bool.false_eq_true, if_false, edges_eq]
  | disconnected sized known cut joined gap =>
      obtain ⟨filled, enough, within⟩ := sized.passes
      obtain ⟨edges, edges_eq⟩ := exists_pathEdges known
      have place := (firstGap?_eq_some_iff edges_eq 0).mpr
        ⟨_, _, _, _, cut, joined, gap, (Nat.zero_add _).symm⟩
      simp only [checkCycle, filled, enough, within, Bool.false_eq_true, if_false, edges_eq, place]
  | notCycle sized known joined isOpen =>
      obtain ⟨filled, enough, within⟩ := sized.passes
      obtain ⟨edges, edges_eq⟩ := exists_pathEdges known
      have gapless := (firstGap?_eq_none_iff edges_eq 0).mpr joined
      have stays : ¬ closesAt base edges = true := mt (closesAt_iff edges_eq).mp isOpen
      simp only [checkCycle, filled, enough, within, Bool.false_eq_true, if_false, edges_eq, gapless,
        stays]
  | repeated sized known joined closed cut distinct again found =>
      obtain ⟨filled, enough, within⟩ := sized.passes
      obtain ⟨edges, edges_eq⟩ := exists_pathEdges known
      have gapless := (firstGap?_eq_none_iff edges_eq 0).mpr joined
      have closes := (closesAt_iff edges_eq).mpr closed
      have first := (firstRepeat?_path_iff wf edges_eq).mpr
        ⟨_, _, _, _, cut, distinct, again, found, rfl⟩
      simp only [checkCycle, filled, enough, within, Bool.false_eq_true, if_false, edges_eq, gapless,
        closes, if_true, first]
  | ok sized known joined closed distinct =>
      obtain ⟨filled, enough, within⟩ := sized.passes
      obtain ⟨edges, edges_eq⟩ := exists_pathEdges known
      have gapless := (firstGap?_eq_none_iff edges_eq 0).mpr joined
      have closes := (closesAt_iff edges_eq).mpr closed
      have unrepeated := firstRepeat?_nil_eq_none_iff.mpr ((nodup_keys_iff wf edges_eq).mpr distinct)
      simp only [checkCycle, filled, enough, within, Bool.false_eq_true, if_false, edges_eq, gapless,
        closes, if_true, unrepeated]

/-- The check reports the first condition that fails, and accepts a path if none does: two up to
`maxDepth` known edges, each starting where the one before it ends, the first one leaving the base
and the last one entering it, and none of them twice. To use no edge twice is to use no market
twice. -/
theorem checkCycle_exact (built : g.Built) (base : AssetId) (maxDepth : Nat) (path : Path) :
    (∀ r, g.checkCycle base maxDepth path = r ↔ g.Verdict base maxDepth path r) ∧
      (g.checkCycle base maxDepth path = .ok () ↔
        (2 ≤ path.length ∧ path.length ≤ maxDepth) ∧ (∀ id ∈ path, id < g.edges.size) ∧
          path.IsChain g.Meets ∧ g.ClosedAt base path ∧ path.Nodup) ∧
      ∀ edges, g.pathEdges path = .ok edges → ((edges.map Edge.key).Nodup ↔ path.Nodup) := by
  have wf := built.wellFormed
  refine ⟨fun r => ⟨?_, checkCycle_of_verdict wf⟩, ⟨?_, ?_⟩, fun edges => nodup_keys_iff wf⟩
  · rintro rfl
    exact verdict_checkCycle wf base maxDepth path
  · intro accepted
    have verdict := verdict_checkCycle wf base maxDepth path
    rw [accepted] at verdict
    cases verdict with
    | ok sized known joined closed distinct => exact ⟨sized, known, joined, closed, distinct⟩
  · rintro ⟨sized, known, joined, closed, distinct⟩
    exact checkCycle_of_verdict wf (.ok sized known joined closed distinct)

/-- There, back, there again and back by another order: the path is closed, and the first order comes
again in the third place. -/
theorem checkCycle_exact_thereAgain :
    parallelOrders.Built ∧
      parallelOrders.checkCycle 0 4 [0, 1, 0, 2] = .error (.repeatedEdge "take #1") ∧
      parallelOrders.Verdict 0 4 [0, 1, 0, 2] (.error (.repeatedEdge "take #1")) := by
  obtain ⟨reports, -, -⟩ := checkCycle_exact parallelOrders_built 0 4 [0, 1, 0, 2]
  have reported : parallelOrders.checkCycle 0 4 [0, 1, 0, 2] = .error (.repeatedEdge "take #1") := by
    decide +kernel
  exact ⟨parallelOrders_built, reported, (reports _).mp reported⟩

end Arbitrage.Graph
