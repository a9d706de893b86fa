import Arbitrage.Text.Blank
import Mathlib.Data.List.TakeWhile

/-!
# Trimmed texts

Trimming a text leaves the one part of it that has no blank at either end and nothing but blanks
around it (`trimBlanks_eq_iff`). Nothing is left exactly of a text of blanks, and trimming again
changes nothing.
-/

namespace Arbitrage.Text

def Blank (cs : List Char) : Prop := ∀ c ∈ cs, isBlank c = true

def Solid (cs : List Char) : Prop := ∀ c ∈ cs, isBlank c = false

instance (cs : List Char) : Decidable (Blank cs) :=
  decidable_of_iff (cs.all isBlank = true) List.all_eq_true

instance (cs : List Char) : Decidable (Solid cs) :=
  decidable_of_iff ((cs.all fun c => !isBlank c) = true) (by simp [Solid])

structure Trimmed (cs : List Char) : Prop where
  head : ∀ c ∈ cs.head?, isBlank c = false
  last : ∀ c ∈ cs.getLast?, isBlank c = false

variable {front back cs ds : List Char}

theorem Trimmed.of_solid (solid : Solid cs) : Trimmed cs where
  head c first := solid c (List.mem_of_mem_head? first)
  last c final := solid c (List.mem_of_mem_getLast? final)

theorem dropWhile_isBlank_of_head? (head : ∀ c ∈ cs.head?, isBlank c = false) :
    cs.dropWhile isBlank = cs := by
  cases cs with
  | nil => rfl
  | cons c cs => exact List.dropWhile_cons_of_neg (by simp [head c rfl])

theorem head?_dropWhile_isBlank (cs : List Char) :
    ∀ c ∈ (cs.dropWhile isBlank).head?, isBlank c = false := by
  intro c first
  have solid := List.head?_dropWhile_not isBlank cs
  rwa [first] at solid

theorem trimBlanks_of_blank (blank : Blank cs) : trimBlanks cs = [] := by
  rw [trimBlanks, List.dropWhile_eq_nil_iff.mpr blank]
  rfl

theorem trimBlanks_append (blank : Blank (front ++ back)) (trimmed : Trimmed cs) :
    trimBlanks (front ++ cs ++ back) = cs := by
  have blankFront : Blank front := fun c listed => blank c (List.mem_append_left _ listed)
  have blankBack : Blank back.reverse :=
    fun c listed => blank c (List.mem_append_right _ (List.mem_reverse.mp listed))
  rcases List.eq_nil_or_concat cs with rfl | ⟨init, final, rfl⟩
  · rw [List.append_nil]
    exact trimBlanks_of_blank blank
  rw [List.concat_eq_append] at trimmed ⊢
  have atFront : (init ++ [final] ++ back).dropWhile isBlank = init ++ [final] ++ back :=
    dropWhile_isBlank_of_head? fun c first => trimmed.head c (by cases init <;> exact first)
  have atBack : (init ++ [final]).reverse.dropWhile isBlank = (init ++ [final]).reverse :=
    dropWhile_isBlank_of_head? fun c first => trimmed.last c (by simpa using first)
  rw [trimBlanks, List.append_assoc, List.dropWhile_append_of_pos blankFront, atFront,
    List.reverse_append, List.dropWhile_append_of_pos blankBack, atBack, List.reverse_reverse]

theorem exists_append_trimBlanks (cs : List Char) :
    ∃ front back, Blank (front ++ back) ∧ cs = front ++ trimBlanks cs ++ back := by
  have atFront := List.takeWhile_append_dropWhile (p := isBlank) (l := cs)
  have atBack := List.takeWhile_append_dropWhile (p := isBlank)
    (l := (cs.dropWhile isBlank).reverse)
  refine ⟨cs.takeWhile isBlank,
    ((cs.dropWhile isBlank).reverse.takeWhile isBlank).reverse, ?_, ?_⟩
  · intro c listed
    rcases List.mem_append.mp listed with listed | listed
    · exact List.mem_takeWhile_imp listed
    · exact List.mem_takeWhile_imp (List.mem_reverse.mp listed)
  · rw [trimBlanks, List.append_assoc, ← List.reverse_append, atBack, List.reverse_reverse,
      atFront]

theorem trimmed_trimBlanks (cs : List Char) : Trimmed (trimBlanks cs) where
  head c first := by
    -- What is left after trimming at the back starts like the text before, unless it is empty.
    have kept : trimBlanks cs <+: cs.dropWhile isBlank := by
      rw [trimBlanks, ← List.reverse_suffix, List.reverse_reverse]
      exact List.dropWhile_suffix isBlank
    obtain ⟨rest, whole⟩ := kept
    apply head?_dropWhile_isBlank cs
    rw [← whole, Option.mem_def, List.head?_append, Option.mem_def.mp first, Option.some_or]
  last c final := by
    rw [trimBlanks, List.getLast?_reverse] at final
    exact head?_dropWhile_isBlank _ c final

theorem trimBlanks_eq_iff : trimBlanks cs = ds ↔
    Trimmed ds ∧ ∃ front back, Blank (front ++ back) ∧ cs = front ++ ds ++ back := by
  constructor
  · rintro rfl
    exact ⟨trimmed_trimBlanks cs, exists_append_trimBlanks cs⟩
  · rintro ⟨trimmed, front, back, blank, rfl⟩
    exact trimBlanks_append blank trimmed

theorem trimBlanks_of_trimmed (trimmed : Trimmed cs) : trimBlanks cs = cs :=
  trimBlanks_eq_iff.mpr ⟨trimmed, [], [], nofun, (List.append_nil cs).symm⟩

@[simp] theorem trimBlanks_trimBlanks (cs : List Char) : trimBlanks (trimBlanks cs) = trimBlanks cs :=
  trimBlanks_of_trimmed (trimmed_trimBlanks cs)

theorem trimBlanks_eq_nil_iff : trimBlanks cs = [] ↔ Blank cs := by
  constructor
  · intro none
    obtain ⟨front, back, blank, whole⟩ := exists_append_trimBlanks cs
    rw [none, List.append_nil] at whole
    rwa [whole]
  · exact trimBlanks_of_blank

end Arbitrage.Text
