import Arbitrage.Natural
import Arbitrage.Simulation.Table

/-!
# What a table holds in all

`Table.total` adds up a quantity over the entries of a table. Entering or removing a value changes
the total by the quantity of that value and of the one that it replaces; no entry holds more than
all together.
-/

namespace Arbitrage.Table

variable {κ ν : Type} [DecidableEq κ]

theorem find?_of_mem {t : Table κ ν} {k : κ} {v : ν} (listed : (k, v) ∈ t.entries) :
    t.find? k = some v := by
  obtain ⟨entries, nodup⟩ := t
  rw [find?]
  dsimp only at listed ⊢
  induction entries with
  | nil => cases listed
  | cons e rest ih =>
      obtain ⟨fresh, nodup⟩ := List.nodup_cons.mp nodup
      rcases List.mem_cons.mp listed with rfl | later
      · exact List.lookup_cons_self
      · have other : (k == e.1) = false := by
          simpa using fun same : k = e.1 => fresh (List.mem_map.mpr ⟨_, later, same⟩)
        rw [List.lookup_cons, other]
        exact ih nodup later

theorem mem_of_find? {t : Table κ ν} {k : κ} {v : ν} (found : t.find? k = some v) :
    (k, v) ∈ t.entries := by
  obtain ⟨before, after, entries, -⟩ := List.lookup_eq_some_iff.mp found
  rw [entries]
  exact List.mem_append_right _ List.mem_cons_self

def total (t : Table κ ν) (f : κ → ν → Nat) : Nat := (t.entries.map fun e => f e.1 e.2).sum

/-- The quantity of the entry of a key, zero if there is none. -/
def part (t : Table κ ν) (f : κ → ν → Nat) (k : κ) : Nat := ((t.find? k).map (f k)).getD 0

/-- The entries of all other keys hold what the entry of this key does not. -/
theorem total_others (t : Table κ ν) (f : κ → ν → Nat) (k : κ) :
    ((t.others k).map fun e => f e.1 e.2).sum + t.part f k = t.total f := by
  obtain ⟨entries, nodup⟩ := t
  simp only [others, part, find?, total]
  induction entries with
  | nil => rfl
  | cons e rest ih =>
      obtain ⟨i, v⟩ := e
      obtain ⟨fresh, nodup⟩ := List.nodup_cons.mp nodup
      have rest_total := ih nodup
      by_cases same : i = k
      · subst same
        have absent : rest.lookup i = none := by
          rw [List.lookup_eq_none_iff]
          intro p hp
          simpa using fun h : i = p.1 => fresh (List.mem_map.mpr ⟨p, hp, h.symm⟩)
        rw [absent] at rest_total
        rw [List.filter_cons_of_neg (by simp), List.lookup_cons_self, List.map_cons, List.sum_cons,
          ← rest_total]
        simp [Nat.add_comm]
      · have other : (k == i) = false := by simpa using Ne.symm same
        rw [List.filter_cons_of_pos (by simpa using same), List.lookup_cons, other, List.map_cons,
          List.map_cons, List.sum_cons, List.sum_cons, ← rest_total, Nat.add_assoc]

theorem total_insert (t : Table κ ν) (f : κ → ν → Nat) (k : κ) (v : ν) :
    (t.insert k v).total f + t.part f k = t.total f + f k v := by
  rw [← t.total_others f k]
  simp only [total, insert, List.map_cons, List.sum_cons]
  omega

theorem total_erase (t : Table κ ν) (f : κ → ν → Nat) (k : κ) :
    (t.erase k).total f + t.part f k = t.total f := t.total_others f k

theorem part_le_total (t : Table κ ν) (f : κ → ν → Nat) (k : κ) : t.part f k ≤ t.total f := by
  rw [← t.total_others f k]
  exact Nat.le_add_left ..

theorem part_of_find? {t : Table κ ν} {f : κ → ν → Nat} {k : κ} {v : ν} (h : t.find? k = some v) :
    t.part f k = f k v := by
  simp [part, h]

end Arbitrage.Table
