import Arbitrage.Cycle.Search
import Arbitrage.Proofs.Cycle.Selection

/-!
# The rejection that is reported

Rejected candidates are compared by how near they are to being traded: by reason, by profit and by
the length of the path (`Candidate.outranks_iff`). An evaluation reports the first of the nearest
(`Sizing.bestRejected_eq_some_iff`).

Unlike the rank of a plan, the nearness of a candidate does not tell its path. Every order of the
candidates reports one that is as near, but which of several depends on the order
(`Sizing.evaluate_nearest`): the losing cycles of one length, for instance, are all equally near.
-/

namespace Arbitrage

namespace Candidate

open OrderDual (toDual)

/-- What rejected candidates are ordered by, the nearer ones last: by reason, then by profit, then by
length from above. -/
def nearness (c : Candidate) : Nat ×ₗ Nat ×ₗ Natᵒᵈ :=
  toLex (c.reason.rank, toLex (c.profit.raw, toDual c.path.length))

theorem outranks_iff {c d : Candidate} : c.outranks d = true ↔ d.nearness < c.nearness := by
  simp only [outranks, beq_iff_eq, Ordering.then_eq_gt, nearness, Prod.Lex.toLex_lt_toLex,
    OrderDual.toDual_lt_toDual, Nat.compare_eq_gt, Nat.compare_eq_eq]
  rw [eq_comm (a := c.reason.rank), eq_comm (a := c.profit.raw)]

end Candidate

theorem Evaluation.bestRejected_reject (ev : Evaluation) (c : Candidate) :
    (ev.reject c).bestRejected =
      List.argAux (fun c d => d.nearness < c.nearness) ev.bestRejected c := by
  cases before : ev.bestRejected with
  | none => simp [reject, before, List.argAux]
  | some d => simp [reject, before, List.argAux, Candidate.outranks_iff]

/-- The argument of greatest value that `List.argmax` finds is the first one. -/
theorem argmax_eq_some_iff_append {α β : Type} [LinearOrder β] [DecidableEq α] {f : α → β}
    {l : List α} {a : α} :
    l.argmax f = some a ↔ ∃ before after, l = before ++ a :: after ∧
      (∀ b ∈ before, f b < f a) ∧ ∀ b ∈ after, f b ≤ f a := by
  constructor
  · intro found
    obtain ⟨listed, greatest, first⟩ := List.argmax_eq_some_iff.mp found
    obtain ⟨before, after, rfl, fresh⟩ := List.eq_append_cons_of_mem listed
    refine ⟨before, after, rfl, fun b earlier => ?_, fun b later => greatest b (by simp [later])⟩
    refine lt_of_not_ge fun above => ?_
    have behind := first b (by simp [earlier]) above
    have ahead : List.idxOf b (before ++ a :: after) < before.length := by
      rw [List.idxOf_append_of_mem earlier]
      exact List.idxOf_lt_length_of_mem earlier
    rw [List.idxOf_append_of_notMem fresh, List.idxOf_cons_self] at behind
    omega
  · rintro ⟨before, after, rfl, less, most⟩
    have fresh : a ∉ before := fun earlier => lt_irrefl _ (less a earlier)
    refine List.argmax_eq_some_iff.mpr ⟨by simp, fun b listed => ?_, fun b listed above => ?_⟩
    · obtain earlier | rfl | later := by simpa using listed
      · exact (less b earlier).le
      · exact le_rfl
      · exact most b later
    · have late : b ∉ before := fun earlier => (less b earlier).not_ge above
      rw [List.idxOf_append_of_notMem fresh, List.idxOf_append_of_notMem late, List.idxOf_cons_self]
      omega

namespace Sizing

variable {s : Sizing} {g : Graph} {path : Path} {paths paths' : List Path} {c d : Candidate}

theorem path_of_size_error (missed : s.size g path = .error c) : c.path = path := by
  rw [size] at missed
  dsimp only at missed
  split at missed
  · cases missed
    rfl
  split at missed
  · cases missed
    rfl
  split at missed
  · cases missed
    rfl
  split at missed
  · cases missed
    rfl
  · cases missed

def miss? (s : Sizing) (g : Graph) (path : Path) : Option Candidate :=
  match s.size g path with
  | .error c => some c
  | .ok _ => none

theorem miss?_eq_some_iff : s.miss? g path = some c ↔ s.size g path = .error c := by
  rw [miss?]
  cases s.size g path <;> simp

/-- The candidates that are rejected, in the order of their paths. -/
def rejected (s : Sizing) (g : Graph) (paths : List Path) : List Candidate :=
  paths.filterMap (s.miss? g)

theorem mem_rejected :
    c ∈ s.rejected g paths ↔ c.path ∈ paths ∧ s.size g c.path = .error c := by
  simp only [rejected, List.mem_filterMap, miss?_eq_some_iff]
  constructor
  · rintro ⟨path, listed, missed⟩
    obtain rfl := path_of_size_error missed
    exact ⟨listed, missed⟩
  · rintro ⟨listed, missed⟩
    exact ⟨c.path, listed, missed⟩

/-- The rejected candidates around one of them are those of the paths around its path. -/
theorem rejected_eq_append_cons_iff {before after : List Candidate} :
    s.rejected g paths = before ++ c :: after ↔
      ∃ ps qs, paths = ps ++ c.path :: qs ∧ s.size g c.path = .error c ∧
        s.rejected g ps = before ∧ s.rejected g qs = after := by
  constructor
  · intro split
    obtain ⟨ps, rest, rfl, rfl, behind⟩ := List.filterMap_eq_append_iff.mp split
    obtain ⟨passed, path, qs, rfl, none, missed, rfl⟩ := List.filterMap_eq_cons_iff.mp behind
    rw [miss?_eq_some_iff] at missed
    obtain rfl := path_of_size_error missed
    refine ⟨ps ++ passed, qs, by simp, missed, ?_, rfl⟩
    rw [rejected, List.filterMap_append, List.filterMap_eq_nil_iff.mpr none, List.append_nil]
  · rintro ⟨ps, qs, rfl, missed, rfl, rfl⟩
    rw [rejected, List.filterMap_append, List.filterMap_cons, miss?_eq_some_iff.mpr missed]
    rfl

theorem bestRejected_foldl_consider (paths : List Path) (ev : Evaluation) :
    (paths.foldl (s.consider g) ev).bestRejected =
      (s.rejected g paths).foldl (List.argAux fun c d => d.nearness < c.nearness)
        ev.bestRejected := by
  induction paths generalizing ev with
  | nil => rfl
  | cons path paths ih =>
      rw [List.foldl_cons, ih]
      cases sized : s.size g path with
      | ok plan =>
          have considered : s.consider g ev path = ev.accept plan := by rw [consider, sized]
          have listed : s.rejected g (path :: paths) = s.rejected g paths := by
            simp [rejected, miss?, sized]
          rw [considered, listed]
          rfl
      | error c =>
          have considered : s.consider g ev path = ev.reject c := by rw [consider, sized]
          have listed : s.rejected g (path :: paths) = c :: s.rejected g paths := by
            simp [rejected, miss?, sized]
          rw [considered, listed, List.foldl_cons, Evaluation.bestRejected_reject]

theorem bestRejected_evaluate (s : Sizing) (g : Graph) (paths : List Path) :
    (s.evaluate g paths).bestRejected = (s.rejected g paths).argmax Candidate.nearness :=
  bestRejected_foldl_consider paths _

/-- A candidate of a list that is rejected, none of the others being a nearer miss. -/
structure Nearest (s : Sizing) (g : Graph) (paths : List Path) (c : Candidate) : Prop where
  listed : c.path ∈ paths
  missed : s.size g c.path = .error c
  greatest : ∀ d, d.path ∈ paths → s.size g d.path = .error d → d.nearness ≤ c.nearness

namespace Nearest

theorem nearness_eq (nearest : s.Nearest g paths c) (nearest' : s.Nearest g paths d) :
    c.nearness = d.nearness :=
  le_antisymm (nearest'.greatest c nearest.listed nearest.missed)
    (nearest.greatest d nearest'.listed nearest'.missed)

theorem perm (nearest : s.Nearest g paths c) (perm : paths.Perm paths') : s.Nearest g paths' c :=
  ⟨perm.mem_iff.mp nearest.listed, nearest.missed,
    fun d listed => nearest.greatest d (perm.mem_iff.mpr listed)⟩

end Nearest

/-- The first of the nearest misses is reported. -/
theorem bestRejected_eq_some_iff :
    (s.evaluate g paths).bestRejected = some c ↔
      ∃ before after, paths = before ++ c.path :: after ∧ s.Nearest g paths c ∧
        ∀ d, s.Nearest g paths d → d.path ∉ before := by
  rw [bestRejected_evaluate, argmax_eq_some_iff_append]
  simp only [rejected_eq_append_cons_iff]
  constructor
  · rintro ⟨_, _, ⟨before, after, rfl, missed, rfl, rfl⟩, less, most⟩
    have nearest : s.Nearest g (before ++ c.path :: after) c := by
      refine ⟨by simp, missed, fun d listed missed' => ?_⟩
      obtain earlier | same | later := by simpa using listed
      · exact (less d (mem_rejected.mpr ⟨earlier, missed'⟩)).le
      · rw [same, missed] at missed'
        rw [Except.error.inj missed']
      · exact most d (mem_rejected.mpr ⟨later, missed'⟩)
    refine ⟨before, after, rfl, nearest, fun d nearest' earlier => ?_⟩
    exact (less d (mem_rejected.mpr ⟨earlier, nearest'.missed⟩)).ne (nearest'.nearness_eq nearest)
  · rintro ⟨before, after, rfl, nearest, first⟩
    refine ⟨_, _, ⟨before, after, rfl, nearest.missed, rfl, rfl⟩, fun d miss => ?_, fun d miss => ?_⟩
    · obtain ⟨earlier, missed⟩ := mem_rejected.mp miss
      have below := nearest.greatest d (by simp [earlier]) missed
      refine lt_of_le_of_ne below fun same => ?_
      exact first d ⟨by simp [earlier], missed, same ▸ nearest.greatest⟩ earlier
    · obtain ⟨later, missed⟩ := mem_rejected.mp miss
      exact nearest.greatest d (by simp [later]) missed

theorem nearest_of_bestRejected (reported : (s.evaluate g paths).bestRejected = some c) :
    s.Nearest g paths c := by
  obtain ⟨_, _, -, nearest, -⟩ := bestRejected_eq_some_iff.mp reported
  exact nearest

theorem exists_bestRejected (listed : c.path ∈ paths) (missed : s.size g c.path = .error c) :
    ∃ d, (s.evaluate g paths).bestRejected = some d := by
  rw [← Option.isSome_iff_exists, ← Option.ne_none_iff_isSome, bestRejected_evaluate, Ne,
    List.argmax_eq_none]
  exact List.ne_nil_of_mem (mem_rejected.mpr ⟨listed, missed⟩)

theorem bestRejected_cons (nearest : s.Nearest g (c.path :: paths) c) :
    (s.evaluate g (c.path :: paths)).bestRejected = some c :=
  bestRejected_eq_some_iff.mpr ⟨[], paths, rfl, nearest, by simp⟩

/-- Every order of the candidates reports a miss that is as near, though it need not be the same
one. -/
theorem nearness_bestRejected_perm (perm : paths.Perm paths') :
    (s.evaluate g paths').bestRejected.map Candidate.nearness =
      (s.evaluate g paths).bestRejected.map Candidate.nearness := by
  cases reported : (s.evaluate g paths).bestRejected with
  | none =>
      cases reported' : (s.evaluate g paths').bestRejected with
      | none => rfl
      | some d =>
          have nearest := (nearest_of_bestRejected reported').perm perm.symm
          obtain ⟨c, found⟩ := exists_bestRejected nearest.listed nearest.missed
          rw [reported] at found
          cases found
  | some c =>
      have nearest := (nearest_of_bestRejected reported).perm perm
      obtain ⟨d, reported'⟩ := exists_bestRejected nearest.listed nearest.missed
      rw [reported', Option.map_some, Option.map_some,
        (nearest_of_bestRejected reported').nearness_eq nearest]

/-- The evaluation reports the first of the nearest misses. In every other order of the candidates
the one it reports has the same rank of reason, the same profit and a path of the same length; it is
always the same one exactly if no two misses are the nearest. -/
theorem evaluate_nearest (s : Sizing) (g : Graph) (paths : List Path) :
    (∀ c, (s.evaluate g paths).bestRejected = some c ↔
        ∃ before after, paths = before ++ c.path :: after ∧ s.Nearest g paths c ∧
          ∀ d, s.Nearest g paths d → d.path ∉ before) ∧
      (∀ paths', paths.Perm paths' →
        (s.evaluate g paths').bestRejected.map Candidate.nearness =
          (s.evaluate g paths).bestRejected.map Candidate.nearness) ∧
      ((∀ paths', paths.Perm paths' →
          (s.evaluate g paths').bestRejected = (s.evaluate g paths).bestRejected) ↔
        ∀ c d, s.Nearest g paths c → s.Nearest g paths d → c = d) := by
  refine ⟨fun c => bestRejected_eq_some_iff, fun _ => nearness_bestRejected_perm, ?_⟩
  constructor
  · -- each of the nearest is reported in the order that begins with it
    intro stable
    have fixed (c : Candidate) (nearest : s.Nearest g paths c) :
        (s.evaluate g paths).bestRejected = some c := by
      have perm := List.perm_cons_erase nearest.listed
      rw [← stable _ perm]
      exact bestRejected_cons (nearest.perm perm)
    intro c d nearest nearest'
    exact Option.some.inj ((fixed c nearest).symm.trans (fixed d nearest'))
  · intro unique paths' perm
    have near := nearness_bestRejected_perm (s := s) (g := g) perm
    cases reported : (s.evaluate g paths).bestRejected with
    | none =>
        rw [reported] at near
        exact Option.map_eq_none_iff.mp near
    | some c =>
        rw [reported] at near
        obtain ⟨d, reported', -⟩ := Option.map_eq_some_iff.mp near
        have nearest' := (nearest_of_bestRejected reported').perm perm.symm
        rw [reported', unique c d (nearest_of_bestRejected reported) nearest']

/-- Two orders that buy the same amount, for different terms, and a way back at par. -/
def twoLosses : Graph where
  assets := #[⟨"sai", .repeated 0x33⟩, ⟨"skr", .repeated 0x22⟩]
  edges := #[⟨0, 1, .order (.ofNat 1) (.ofUnits 90) (.ofUnits 100)⟩,
    ⟨1, 0, .fixedPrice .boom .one .unbounded⟩,
    ⟨0, 1, .order (.ofNat 2) (.ofUnits 50) (.ofUnits 100)⟩]
  leaving := #[[0, 2], [1]]

/-- Of two cycles that lose, one a tenth and the other a half, the one that comes first is reported. -/
theorem evaluate_nearest_twoLosses :
    twoLosses.cycles 0 3 = [[0, 1], [2, 1]] ∧
      ([[0, 1], [2, 1]] : List Path).Perm [[2, 1], [0, 1]] ∧
      ((make .zero (.ofUnits 100) (.ofUnits 1000)).evaluate twoLosses [[0, 1], [2, 1]]).bestRejected =
        some ⟨[0, 1], .ofUnits 100, .ofUnits 90, .unprofitable⟩ ∧
      ((make .zero (.ofUnits 100) (.ofUnits 1000)).evaluate twoLosses [[2, 1], [0, 1]]).bestRejected =
        some ⟨[2, 1], .ofUnits 100, .ofUnits 50, .unprofitable⟩ :=
  ⟨by decide, .swap .., by decide, by decide⟩

end Sizing

end Arbitrage
