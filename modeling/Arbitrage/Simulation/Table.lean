/-!
# Finite tables

A table holds at most one entry for each key. Entries can be listed, so what a table holds can be
added up.
-/

namespace Arbitrage

/-- Finitely many entries with different keys. That the keys differ is part of the table, so that no
look-up depends on the order of the entries. -/
structure Table (κ ν : Type) where
  entries : List (κ × ν)
  nodup : (entries.map Prod.fst).Nodup

namespace Table

variable {κ ν : Type}

def empty : Table κ ν := ⟨[], List.nodup_nil⟩

variable [DecidableEq κ]

def find? (t : Table κ ν) (k : κ) : Option ν := t.entries.lookup k

def others (t : Table κ ν) (k : κ) : List (κ × ν) := t.entries.filter (·.1 ≠ k)

theorem others_sublist (t : Table κ ν) (k : κ) :
    ((t.others k).map Prod.fst).Sublist (t.entries.map Prod.fst) :=
  List.filter_sublist.map _

def erase (t : Table κ ν) (k : κ) : Table κ ν := ⟨t.others k, t.nodup.sublist (t.others_sublist k)⟩

/-- Enter a value for a key, in place of the one before. -/
def insert (t : Table κ ν) (k : κ) (v : ν) : Table κ ν :=
  ⟨(k, v) :: t.others k, by
    simpa using ⟨by simp [others], t.nodup.sublist (t.others_sublist k)⟩⟩

theorem lookup_others (t : Table κ ν) (j k : κ) :
    (t.others k).lookup j = if j = k then none else t.find? j := by
  unfold others find?
  induction t.entries with
  | nil => simp
  | cons e rest ih =>
    obtain ⟨i, v⟩ := e
    by_cases hi : i = k <;> by_cases hj : j = i <;> grind

@[simp] theorem find?_erase (t : Table κ ν) (j k : κ) :
    (t.erase k).find? j = if j = k then none else t.find? j := t.lookup_others j k

@[simp] theorem find?_insert (t : Table κ ν) (j k : κ) (v : ν) :
    (t.insert k v).find? j = if j = k then some v else t.find? j := by
  by_cases h : j = k
  · subst h; simp [insert, find?]
  · have : (j == k) = false := by simpa using h
    simp [insert, find?, List.lookup_cons, this, h]
    simpa [h, find?] using t.lookup_others j k

end Table

end Arbitrage
