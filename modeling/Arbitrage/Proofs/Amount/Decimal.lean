import Arbitrage.Json
import Arbitrage.Proofs.Text.Blank
import Mathlib.Algebra.Order.Field.Rat
import Mathlib.Data.List.Induction
import Mathlib.Data.List.TakeWhile
import Mathlib.Data.Nat.Digits.Defs
import Mathlib.Tactic.FieldSimp

/-!
# Amounts as decimal text

A `Numeral` is what may stand for an amount: digits before and behind a point, at least one in all.
What it is worth is said by place value (`Numeral.value`), and not by what reads or writes it. A
text is read exactly if it spells a numeral with no more places than the scale has, between blanks,
and the amount is what the numeral is worth; so zeros at either end make no difference.

Of the numerals of one worth a single one is `Canonical`: it has all the places of the scale, and no
superfluous zero in front. This is the one that is written.
-/

namespace Arbitrage

namespace Decimal

/-- Digits before and behind the point, at least one in all. -/
structure Numeral where
  whole : List Char
  fraction : List Char
  decimal : ∀ c ∈ whole ++ fraction, c.isDigit = true
  nonempty : whole ++ fraction ≠ []

def digit (c : Char) : Nat := c.toNat - '0'.toNat

/-- What digits are worth by their places, the last one counting units. -/
def placeValue (cs : List Char) : Nat := Nat.ofDigits 10 (cs.reverse.map digit)

namespace Numeral

def pointed (m : Numeral) : List Char := m.whole ++ '.' :: m.fraction

/-- A text spells a numeral; without digits behind it there need not be a point. -/
def Spells (m : Numeral) (text : List Char) : Prop :=
  text = m.pointed ∨ m.fraction = [] ∧ text = m.whole

/-- A text is made of a numeral and blanks around it. -/
def StandsIn (m : Numeral) (input : List Char) : Prop :=
  ∃ before text behind, (∀ c ∈ before ++ behind, Text.isBlank c = true) ∧
    input = before ++ text ++ behind ∧ m.Spells text

/-- What a numeral is worth: each digit behind the point makes its last place a tenth. -/
def value (m : Numeral) : ℚ := placeValue (m.whole ++ m.fraction) / 10 ^ m.fraction.length

theorem digits_whole (m : Numeral) : ∀ c ∈ m.whole, c.isDigit = true :=
  fun c listed => m.decimal c (List.mem_append_left _ listed)

theorem digits_fraction (m : Numeral) : ∀ c ∈ m.fraction, c.isDigit = true :=
  fun c listed => m.decimal c (List.mem_append_right _ listed)

/-- The numeral with more zeros in front and behind. -/
def padded (m : Numeral) (leading trailing : Nat) : Numeral where
  whole := List.replicate leading '0' ++ m.whole
  fraction := m.fraction ++ List.replicate trailing '0'
  decimal := by
    intro c listed
    simp only [List.mem_append, List.mem_replicate] at listed
    rcases listed with (⟨-, rfl⟩ | listed) | listed | ⟨-, rfl⟩
    · decide
    · exact m.digits_whole c listed
    · exact m.digits_fraction c listed
    · decide
  nonempty := by
    intro none
    simp only [List.append_eq_nil_iff] at none
    exact m.nonempty (by simp [none])

end Numeral

section Number

variable {cs : List Char}

theorem number_eq (cs : List Char) : number cs = Nat.ofDigitChars 10 cs 0 :=
  Nat.ofDigitChars_eq_foldl.symm

theorem number_append (first second : List Char) :
    number (first ++ second) = number first * 10 ^ second.length + number second := by
  rw [number_eq, Nat.ofDigitChars_append, Nat.ofDigitChars_eq_ofDigitChars_zero, ← number_eq,
    ← number_eq, Nat.mul_comm]

theorem number_singleton (c : Char) : number [c] = digit c := by
  rw [number_eq, Nat.ofDigitChars_cons, Nat.ofDigitChars_nil, Nat.mul_zero, Nat.zero_add, digit]

@[simp] theorem number_replicate_zero (n : Nat) : number (List.replicate n '0') = 0 := by
  rw [number_eq, Nat.ofDigitChars_replicate_zero, Nat.mul_zero]

@[simp] theorem number_digits (n : Nat) : number (digits n) = n := by
  rw [number_eq, digits, Nat.ofDigitChars_ten_toDigits]

theorem number_eq_placeValue (cs : List Char) : number cs = placeValue cs := by
  induction cs with
  | nil => rfl
  | cons c cs ih =>
      rw [← List.singleton_append, number_append, number_singleton, ih]
      simp only [placeValue, List.singleton_append, List.reverse_cons, List.map_append,
        Nat.ofDigits_append, List.map_cons, List.map_nil, Nat.ofDigits_singleton, List.length_map,
        List.length_reverse]
      rw [Nat.mul_comm, Nat.add_comm]

theorem digit_eq (c : Char) : digit c = c.toNat - 48 := rfl

theorem toNat_range {c : Char} (h : c.isDigit = true) : 48 ≤ c.toNat ∧ c.toNat ≤ 57 :=
  Char.isDigit_iff_toNat.mp h

theorem digit_lt {c : Char} (h : c.isDigit = true) : digit c < 10 := by
  have range := toNat_range h
  rw [digit_eq]
  omega

theorem digitChar_digit {c : Char} (h : c.isDigit = true) : Nat.digitChar (digit c) = c := by
  have least := (toNat_range h).1
  apply Char.ext
  apply UInt32.toNat_inj.mp
  show (Nat.digitChar (digit c)).toNat = c.toNat
  rw [Nat.toNat_digitChar_of_lt_ten (digit_lt h), digit_eq]
  omega

theorem number_lt (h : ∀ c ∈ cs, c.isDigit = true) : number cs < 10 ^ cs.length := by
  have bound := Nat.ofDigits_lt_base_pow_length (b := 10) (l := cs.reverse.map digit) (by decide)
    (by simpa using fun c listed => digit_lt (h c listed))
  rw [number_eq_placeValue, placeValue]
  simpa using bound

/-- Digits with the same number are the same if there are as many, so that leading zeros are all
that may differ. -/
theorem eq_of_number_eq {ds : List Char} (hcs : ∀ c ∈ cs, c.isDigit = true)
    (hds : ∀ c ∈ ds, c.isDigit = true) (length : cs.length = ds.length)
    (same : number cs = number ds) : cs = ds := by
  rw [number_eq_placeValue, number_eq_placeValue] at same
  have mapped : cs.reverse.map digit = ds.reverse.map digit := by
    refine Nat.ofDigits_inj_of_len_eq (by decide) (by simpa using length) ?_ ?_ same
    · simpa using fun c listed => digit_lt (hcs c listed)
    · simpa using fun c listed => digit_lt (hds c listed)
  have back : ∀ {l : List Char}, (∀ c ∈ l, c.isDigit = true) →
      ((l.reverse.map digit).map Nat.digitChar).reverse = l := by
    intro l all
    rw [List.map_map, List.map_reverse, List.reverse_reverse]
    exact (List.map_congr_left fun c listed => digitChar_digit (all c listed)).trans (List.map_id l)
  rw [← back hcs, mapped, back hds]

theorem isDigit_of_mem_digits {n : Nat} : ∀ c ∈ digits n, c.isDigit = true :=
  fun _ listed => Nat.isDigit_of_mem_toDigits (by decide) (by decide) listed

theorem digits_number (h : ∀ c ∈ cs, c.isDigit = true) (nonempty : cs ≠ [])
    (canonical : cs.head? ≠ some '0') : 0 < number cs ∧ digits (number cs) = cs := by
  -- Digits are written from the front, and a number grows by a digit at its end.
  induction cs using List.reverseRecOn with
  | nil => exact absurd rfl nonempty
  | append_singleton cs c ih =>
      have last : c.isDigit = true := h c (by simp)
      by_cases single : cs = []
      · subst single
        have positive : digit c ≠ 0 := by
          intro zero
          have same := digitChar_digit last
          rw [zero] at same
          exact canonical (congrArg some same.symm)
        rw [List.nil_append, number_singleton, digits, Nat.toDigits_of_lt_base (digit_lt last),
          digitChar_digit last]
        exact ⟨Nat.pos_of_ne_zero positive, rfl⟩
      · have front : cs.head? ≠ some '0' := by
          rwa [List.head?_append_of_ne_nil _ single] at canonical
        obtain ⟨positive, written⟩ := ih (fun d listed => h d (by simp [listed])) single front
        have number : number (cs ++ [c]) = 10 * number cs + digit c := by
          rw [number_append, number_singleton, List.length_singleton, Nat.pow_one, Nat.mul_comm]
        have appended := Nat.toDigits_append_toDigits (b := 10) (by decide) positive (digit_lt last)
        rw [number]
        refine ⟨by omega, ?_⟩
        rw [digits, ← appended, ← digits, written, Nat.toDigits_of_lt_base (digit_lt last),
          digitChar_digit last]

end Number

section Padding

variable {width n : Nat}

@[simp] theorem number_paddedDigits (width n : Nat) : number (paddedDigits width n) = n := by
  rw [paddedDigits, number_append, number_replicate_zero, number_digits, Nat.zero_mul, Nat.zero_add]

theorem isDigit_of_mem_paddedDigits : ∀ c ∈ paddedDigits width n, c.isDigit = true := by
  intro c listed
  rcases List.mem_append.mp listed with zero | listed
  · rw [List.eq_of_mem_replicate zero]
    decide
  · exact isDigit_of_mem_digits c listed

theorem length_paddedDigits (pos : 0 < width) (small : n < 10 ^ width) :
    (paddedDigits width n).length = width := by
  have fits : (digits n).length ≤ width := (Nat.length_toDigits_le_iff (by decide) pos).mpr small
  rw [paddedDigits, List.length_append, List.length_replicate]
  omega

end Padding

section Read

variable {places n : Nat} {text : List Char} {m : Numeral}

theorem ne_point_of_isDigit {c : Char} (h : c.isDigit = true) : c ≠ '.' := by
  rintro rfl
  cases h

/-- What stands before the first point, and what stands behind it, are the parts of a numeral. -/
theorem Numeral.Spells.split (spells : m.Spells text) :
    text.takeWhile (· ≠ '.') = m.whole ∧ (text.dropWhile (· ≠ '.')).drop 1 = m.fraction := by
  have before : ∀ c ∈ m.whole, decide (c ≠ '.') = true := by
    intro c listed
    exact decide_eq_true (ne_point_of_isDigit (m.digits_whole c listed))
  rcases spells with rfl | ⟨none, rfl⟩
  · rw [Numeral.pointed, List.takeWhile_append_of_pos before, List.dropWhile_append_of_pos before]
    simp
  · rw [List.takeWhile_eq_self_iff.mpr before, List.dropWhile_eq_nil_iff.mpr before, none]
    exact ⟨rfl, rfl⟩

theorem Numeral.Spells.ne_nil (spells : m.Spells text) : text ≠ [] := by
  rcases spells with rfl | ⟨none, rfl⟩
  · simp [pointed]
  · have nonempty := m.nonempty
    rwa [none, List.append_nil] at nonempty

theorem Numeral.Spells.unique {m' : Numeral} (spells : m.Spells text) (spells' : m'.Spells text) :
    m.whole = m'.whole ∧ m.fraction = m'.fraction :=
  ⟨spells.split.1.symm.trans spells'.split.1, spells.split.2.symm.trans spells'.split.2⟩

/-- How many steps of `10 ^ -places` a numeral is worth, if it has no more places. -/
def Numeral.steps (m : Numeral) (places : Nat) : Nat :=
  number m.whole * 10 ^ places + number m.fraction * 10 ^ (places - m.fraction.length)

theorem read_of_spells (spells : m.Spells text) (few : m.fraction.length ≤ places) :
    read places text = .ok (m.steps places) := by
  have some : text.isEmpty = false := List.isEmpty_eq_false_iff.mpr spells.ne_nil
  have parts : (m.whole.isEmpty && m.fraction.isEmpty) = false := by simpa using m.nonempty
  have digits : (m.whole.all Char.isDigit && m.fraction.all Char.isDigit) = true := by
    rw [← List.all_append]
    exact List.all_eq_true.mpr m.decimal
  simp only [read, spells.split.1, spells.split.2, some, parts, digits, Bool.not_true,
    Bool.false_eq_true, if_false, if_neg (Nat.not_lt.mpr few), Numeral.steps]

theorem eq_takeWhile_append (text : List Char) :
    text = text.takeWhile (· ≠ '.') ++ '.' :: (text.dropWhile (· ≠ '.')).drop 1 ∨
      (text.dropWhile (· ≠ '.')).drop 1 = [] ∧ text = text.takeWhile (· ≠ '.') := by
  have whole := List.takeWhile_append_dropWhile (p := (· ≠ '.')) (l := text)
  cases rest : text.dropWhile (· ≠ '.') with
  | nil =>
      rw [rest, List.append_nil] at whole
      exact .inr ⟨rfl, whole.symm⟩
  | cons c cs =>
      have point := List.head?_dropWhile_not (fun d => decide (d ≠ '.')) text
      rw [rest] at point
      have same : c = '.' := by simpa using point
      rw [rest, same] at whole
      exact .inl whole.symm

theorem exists_spells_of_read (done : read places text = .ok n) :
    ∃ m : Numeral, m.Spells text ∧ m.fraction.length ≤ places := by
  simp only [read] at done
  split at done
  · cases done
  split at done
  · cases done
  next parts =>
  split at done
  · cases done
  next digits =>
  split at done
  · cases done
  next few =>
  simp only [Bool.not_eq_true, Bool.not_eq_false', ← List.all_append] at digits
  have nonempty : text.takeWhile (· ≠ '.') ++ (text.dropWhile (· ≠ '.')).drop 1 ≠ [] := by
    simpa using parts
  exact ⟨⟨_, _, List.all_eq_true.mp digits, nonempty⟩, eq_takeWhile_append text, Nat.not_lt.mp few⟩

end Read

section Value

variable {places : Nat} {m : Numeral}

namespace Numeral

theorem steps_eq_value (few : m.fraction.length ≤ places) :
    (m.steps places : ℚ) = m.value * 10 ^ places := by
  have split : (10 : ℚ) ^ places = 10 ^ (places - m.fraction.length) * 10 ^ m.fraction.length := by
    rw [← pow_add, Nat.sub_add_cancel few]
  have positive : (10 : ℚ) ^ m.fraction.length ≠ 0 := pow_ne_zero _ (by decide)
  rw [steps, value, ← number_eq_placeValue, number_append]
  push_cast
  rw [split]
  field_simp

theorem value_padded (m : Numeral) (leading trailing : Nat) :
    (m.padded leading trailing).value = m.value := by
  have positive : (10 : ℚ) ^ m.fraction.length ≠ 0 := pow_ne_zero _ (by decide)
  have positive' : (10 : ℚ) ^ trailing ≠ 0 := pow_ne_zero _ (by decide)
  simp only [value, padded, ← number_eq_placeValue, number_append, number_replicate_zero,
    List.length_append, List.length_replicate, pow_add]
  push_cast
  field_simp
  ring

end Numeral

end Value

section Write

variable {places n : Nat} {m : Numeral}

namespace Numeral

/-- A numeral as it is written: no zero in front unless it is the whole part, and all the places. -/
structure Canonical (m : Numeral) (places : Nat) : Prop where
  whole_ne_nil : m.whole ≠ []
  plain : m.whole.head? = some '0' → m.whole = ['0']
  length_fraction : m.fraction.length = places

/-- The numeral that stands for a number of steps when it is written, with all the places of the
scale. -/
def ofSteps (places n : Nat) : Numeral where
  whole := digits (n / 10 ^ places)
  fraction := paddedDigits places (n % 10 ^ places)
  decimal := by
    intro c listed
    rcases List.mem_append.mp listed with whole | fraction
    · exact isDigit_of_mem_digits c whole
    · exact isDigit_of_mem_paddedDigits c fraction
  nonempty := by
    intro none
    exact Nat.toDigits_ne_nil (List.append_eq_nil_iff.mp none).1

theorem pointed_ofSteps (places n : Nat) : (ofSteps places n).pointed = write places n := rfl

theorem length_fraction_ofSteps (pos : 0 < places) : (ofSteps places n).fraction.length = places :=
  length_paddedDigits pos (Nat.mod_lt n (Nat.pow_pos (by decide)))

theorem steps_ofSteps (pos : 0 < places) : (ofSteps places n).steps places = n := by
  rw [steps, length_fraction_ofSteps pos, Nat.sub_self, Nat.pow_zero, Nat.mul_one, ofSteps,
    number_digits, number_paddedDigits, Nat.mul_comm]
  exact Nat.div_add_mod n (10 ^ places)

theorem digits_eq_zero_of_head? (zero : (digits n).head? = some '0') : digits n = ['0'] := by
  obtain ⟨rest, shape⟩ := List.head?_eq_some_iff.mp zero
  rw [shape]
  -- The digits behind the zero would have the same number, and be fewer.
  by_contra more
  have few : 0 < rest.length := by
    rcases rest with _ | ⟨c, cs⟩
    · exact absurd rfl more
    · exact Nat.succ_pos _
  have same : number rest = n := by
    rw [← number_digits n, shape, ← List.singleton_append, number_append]
    simp [number_singleton, digit]
  have small : n < 10 ^ rest.length := by
    rw [← same]
    refine number_lt fun c listed => isDigit_of_mem_digits (n := n) c ?_
    rw [shape]
    exact List.mem_cons_of_mem _ listed
  have short := (Nat.length_toDigits_le_iff (by decide) few).mpr small
  rw [← digits, shape, List.length_cons] at short
  omega

theorem canonical_ofSteps (pos : 0 < places) : (ofSteps places n).Canonical places where
  whole_ne_nil := Nat.toDigits_ne_nil
  plain := digits_eq_zero_of_head?
  length_fraction := length_fraction_ofSteps pos

/-- A canonical numeral is the one that is written for its steps. -/
theorem Canonical.pointed_eq (canonical : m.Canonical places) (pos : 0 < places) :
    m.pointed = write places (m.steps places) := by
  have digitsFraction := number_lt m.digits_fraction
  rw [canonical.length_fraction] at digitsFraction
  have steps : number m.fraction + 10 ^ places * number m.whole = m.steps places := by
    rw [Numeral.steps, canonical.length_fraction, Nat.sub_self, Nat.pow_zero, Nat.mul_one,
      Nat.mul_comm, Nat.add_comm]
  have base : 0 < 10 ^ places := Nat.pow_pos (by decide)
  obtain ⟨quotient, remainder⟩ := (Nat.div_mod_unique base).mpr ⟨steps, digitsFraction⟩
  have whole : digits (number m.whole) = m.whole := by
    by_cases zero : m.whole.head? = some '0'
    · rw [canonical.plain zero]
      rfl
    · exact (digits_number m.digits_whole canonical.whole_ne_nil zero).2
  have fraction : paddedDigits places (number m.fraction) = m.fraction := by
    refine eq_of_number_eq isDigit_of_mem_paddedDigits m.digits_fraction ?_
      (number_paddedDigits _ _)
    rw [length_paddedDigits pos digitsFraction, canonical.length_fraction]
  rw [pointed, write, quotient, remainder, whole, fraction]

end Numeral

/-- What is written for a number of steps is the canonical numeral with their value. -/
theorem write_eq_iff (pos : 0 < places) {text : List Char} :
    text = write places n ↔
      ∃ m : Numeral, m.Canonical places ∧ text = m.pointed ∧ m.value * 10 ^ places = n := by
  constructor
  · rintro rfl
    refine ⟨.ofSteps places n, Numeral.canonical_ofSteps pos, rfl, ?_⟩
    rw [← Numeral.steps_eq_value (Numeral.length_fraction_ofSteps pos).le,
      Numeral.steps_ofSteps pos]
  · rintro ⟨m, canonical, rfl, value⟩
    rw [← Numeral.steps_eq_value canonical.length_fraction.le] at value
    rw [canonical.pointed_eq pos, Nat.cast_injective value]

end Write

section Blanks

variable {cs : List Char} {m : Numeral}

theorem not_isBlank_of_isDigit {c : Char} (h : c.isDigit = true) : Text.isBlank c = false := by
  have range := toNat_range h
  simp only [Text.isBlank, Bool.or_eq_false_iff, Bool.and_eq_false_imp, decide_eq_true_eq,
    decide_eq_false_iff_not, beq_eq_false_iff_ne]
  omega

namespace Numeral

theorem Spells.solid (spells : m.Spells cs) : Text.Solid cs := by
  intro c listed
  rcases spells with rfl | ⟨-, rfl⟩
  · rcases List.mem_append.mp listed with whole | behind
    · exact not_isBlank_of_isDigit (m.digits_whole c whole)
    · rcases List.mem_cons.mp behind with rfl | fraction
      · rfl
      · exact not_isBlank_of_isDigit (m.digits_fraction c fraction)
  · exact not_isBlank_of_isDigit (m.digits_whole c listed)

theorem standsIn_iff : m.StandsIn cs ↔ m.Spells (Text.trimBlanks cs) := by
  constructor
  · rintro ⟨front, text, back, blank, rfl, spells⟩
    rwa [Text.trimBlanks_append blank (.of_solid spells.solid)]
  · intro spells
    obtain ⟨front, back, blank, whole⟩ := Text.exists_append_trimBlanks cs
    exact ⟨front, _, back, blank, whole, spells⟩

end Numeral

end Blanks

end Decimal

theorem Scale.decimals_pos (s : Scale) : 0 < s.decimals := by
  cases s <;> decide

namespace Amount

open Decimal

variable {s : Scale} {a : Amount s} {input : String} {m : Numeral}

theorem parse_of_standsIn (stands : m.StandsIn input.toList)
    (few : m.fraction.length ≤ s.decimals) : parse s input = .ok ⟨m.steps s.decimals⟩ := by
  rw [parse, read_of_spells (Numeral.standsIn_iff.mp stands) few]

theorem exists_standsIn_of_parse (done : parse s input = .ok a) :
    ∃ m : Numeral, m.StandsIn input.toList ∧ m.fraction.length ≤ s.decimals := by
  rw [parse] at done
  cases found : read s.decimals (Text.trimBlanks input.toList) with
  | ok n =>
      obtain ⟨m, spells, few⟩ := exists_spells_of_read found
      exact ⟨m, Numeral.standsIn_iff.mpr spells, few⟩
  | error fault =>
      rw [found] at done
      cases done

/-- Whatever numeral stands in a text that is read, the amount is what it is worth. -/
theorem raw_eq_of_parse (done : parse s input = .ok a) (stands : m.StandsIn input.toList) :
    (a.raw : ℚ) = m.value * 10 ^ s.decimals := by
  obtain ⟨m', stands', few'⟩ := exists_standsIn_of_parse done
  have same := (Numeral.standsIn_iff.mp stands).unique (Numeral.standsIn_iff.mp stands')
  have few : m.fraction.length ≤ s.decimals := by rwa [same.2]
  rw [parse_of_standsIn stands few] at done
  rw [← Numeral.steps_eq_value few, ← Except.ok.inj done]

theorem parse_text (a : Amount s) : parse s a.text = .ok a := by
  have stands : (Numeral.ofSteps s.decimals a.raw).StandsIn a.text.toList :=
    ⟨[], _, [], by simp, by simp [text, Numeral.pointed_ofSteps], .inl rfl⟩
  have few := (Numeral.length_fraction_ofSteps (n := a.raw) s.decimals_pos).le
  rw [parse_of_standsIn stands few, Numeral.steps_ofSteps s.decimals_pos]

theorem parse_padded {input' : String} {leading trailing : Nat} (stands : m.StandsIn input.toList)
    (padded : (m.padded leading trailing).StandsIn input'.toList)
    (few : m.fraction.length + trailing ≤ s.decimals) : parse s input' = parse s input := by
  have few' : (m.padded leading trailing).fraction.length ≤ s.decimals := by
    simpa [Numeral.padded] using few
  rw [parse_of_standsIn stands (Nat.le_of_add_right_le few), parse_of_standsIn padded few']
  congr 2
  apply Nat.cast_injective (R := ℚ)
  rw [Numeral.steps_eq_value few', Numeral.value_padded,
    Numeral.steps_eq_value (Nat.le_of_add_right_le few)]

theorem eq_text_iff {t : String} :
    t = a.text ↔ ∃ m : Numeral, m.Canonical s.decimals ∧ t.toList = m.pointed ∧
      m.value * 10 ^ s.decimals = a.raw := by
  rw [← write_eq_iff s.decimals_pos, text, ← String.toList_inj, String.toList_ofList]

/-- The text of an amount is read back, in JSON too. What is read is a numeral between blanks, with
no more places than the scale, for what it is worth, whatever zeros stand at its ends. What is
written is the only canonical numeral of that worth. -/
theorem parse_text_exact (s : Scale) :
    (∀ a : Amount s, parse s a.text = .ok a ∧ ofJson? s a.toJson = some (.ok a)) ∧
    (∀ input, (∃ a, parse s input = .ok a) ↔
      ∃ m : Numeral, m.StandsIn input.toList ∧ m.fraction.length ≤ s.decimals) ∧
    (∀ input a (m : Numeral), parse s input = .ok a → m.StandsIn input.toList →
      (a.raw : ℚ) = m.value * 10 ^ s.decimals) ∧
    (∀ input input' (m : Numeral) leading trailing, m.StandsIn input.toList →
      (m.padded leading trailing).StandsIn input'.toList →
      m.fraction.length + trailing ≤ s.decimals → parse s input' = parse s input) ∧
    (∀ (a : Amount s) t, t = a.text ↔ ∃ m : Numeral, m.Canonical s.decimals ∧
      t.toList = m.pointed ∧ m.value * 10 ^ s.decimals = a.raw) := by
  refine ⟨fun a => ⟨parse_text a, ?_⟩, fun input => ⟨?_, ?_⟩, ?_, ?_, fun a t => eq_text_iff⟩
  · rw [toJson, ofJson?, parse_text]
  · rintro ⟨a, done⟩
    exact exists_standsIn_of_parse done
  · rintro ⟨m, stands, few⟩
    exact ⟨_, parse_of_standsIn stands few⟩
  · intro input a m done stands
    exact raw_eq_of_parse done stands
  · intro input input' m leading trailing stands padded few
    exact parse_padded stands padded few

/-- Seven and a half, which is written with all the places of a scale and may be read with one. -/
def sevenAndHalf : Numeral := ⟨['7'], ['5'], List.all_eq_true.mp rfl, by decide⟩

theorem parse_text_exact_padded :
    parse .wad "7.5" = .ok ⟨7500000000000000000⟩ ∧
      (7500000000000000000 : ℚ) = sevenAndHalf.value * 10 ^ 18 ∧
      parse .wad " 007.50\n" = parse .wad "7.5" := by
  obtain ⟨-, -, worth, zeros, -⟩ := parse_text_exact .wad
  have read : parse .wad "7.5" = .ok ⟨7500000000000000000⟩ := rfl
  have plain : sevenAndHalf.StandsIn "7.5".toList :=
    ⟨[], _, [], List.all_eq_true.mp rfl, rfl, .inl rfl⟩
  have padded : (sevenAndHalf.padded 2 1).StandsIn " 007.50\n".toList :=
    ⟨[' '], _, ['\n'], List.all_eq_true.mp rfl, rfl, .inl rfl⟩
  exact ⟨read, worth "7.5" _ _ read plain, zeros _ _ _ 2 1 plain padded (by decide)⟩

end Amount

end Arbitrage
