import Arbitrage.Word

/-!
# Fixed-point amounts

An amount is a natural number of the smallest steps of its scale: 18 decimals for token amounts and
prices (wad), 27 for ratios (ray), 45 for products of the two (rad). The scale is part of the type.
Products and conversions to a narrower scale round down; the scale of a product is read off a table.
-/

namespace Arbitrage

/-- The three scales of the contracts: token amounts and prices, ratios, and products of the two. -/
inductive Scale
  | wad
  | ray
  | rad
  deriving DecidableEq, Repr

namespace Scale

/-- Digits after the decimal point. -/
def decimals : Scale → Nat
  | wad => 18
  | ray => 27
  | rad => 45

/-- How many steps make up one unit of a scale. -/
def unit (s : Scale) : Nat := 10 ^ s.decimals

/-- The scale of a product: a wad absorbs either factor's extra digits, a ray keeps the narrower of
two wide scales, a rad stays a rad. -/
@[reducible] def product : Scale → Scale → Scale
  | wad, _ => wad
  | ray, wad => wad
  | ray, _ => ray
  | rad, _ => rad

theorem unit_pos (s : Scale) : 0 < s.unit := Nat.pow_pos (by decide)

end Scale

/-- An amount in steps of its scale. -/
structure Amount (s : Scale) where
  raw : Nat
  deriving DecidableEq, Repr

/-- Token amounts and prices, with 18 digits after the point. -/
abbrev Wad := Amount .wad

/-- Ratios, with 27 digits after the point. -/
abbrev Ray := Amount .ray

/-- Products of wads and rays, with 45 digits after the point. -/
abbrev Rad := Amount .rad

namespace Amount

variable {s t : Scale}

@[ext] theorem ext {a b : Amount s} (h : a.raw = b.raw) : a = b := by
  cases a; cases b; simp_all

def zero : Amount s := ⟨0⟩

def one : Amount s := ⟨s.unit⟩

def ofUnits (n : Nat) : Amount s := ⟨n * s.unit⟩

instance : Inhabited (Amount s) := ⟨zero⟩

def isZero (a : Amount s) : Bool := a.raw == 0

instance : LE (Amount s) := ⟨fun a b => a.raw ≤ b.raw⟩

instance : LT (Amount s) := ⟨fun a b => a.raw < b.raw⟩

instance (a b : Amount s) : Decidable (a ≤ b) := inferInstanceAs (Decidable (a.raw ≤ b.raw))

instance (a b : Amount s) : Decidable (a < b) := inferInstanceAs (Decidable (a.raw < b.raw))

instance : Ord (Amount s) := ⟨fun a b => compare a.raw b.raw⟩

theorem le_def {a b : Amount s} : a ≤ b ↔ a.raw ≤ b.raw := Iff.rfl

theorem lt_def {a b : Amount s} : a < b ↔ a.raw < b.raw := Iff.rfl

/-- The smaller of two amounts, the first when they are equal. -/
def min (a b : Amount s) : Amount s := if a ≤ b then a else b

instance : Add (Amount s) := ⟨fun a b => ⟨a.raw + b.raw⟩⟩

/-- The difference, if it is not negative. No amount is below zero, so whoever subtracts has to say
what happens otherwise. -/
def sub? (a b : Amount s) : Option (Amount s) :=
  if b.raw ≤ a.raw then some ⟨a.raw - b.raw⟩ else none

/-- The difference, or zero where it would be negative. A plan that loses has a profit of zero in
this sense. -/
def monus (a b : Amount s) : Amount s := (a.sub? b).getD zero

/-- The quotient at the scale of both, rounded down, unless the divisor is zero. -/
def div? (a b : Amount s) : Option (Amount s) :=
  if b.raw = 0 then none else some ⟨a.raw * s.unit / b.raw⟩

/-- `1 / a` rounded down, unless `a` is zero. -/
def inverse? (a : Amount s) : Option (Amount s) := (one : Amount s).div? a

/-- The product of two amounts of any scales. It is computed exactly and rounded down once, to the
scale of the product. -/
def mul (a : Amount s) (b : Amount t) : Amount (s.product t) :=
  ⟨a.raw * b.raw / 10 ^ (s.decimals + t.decimals - (s.product t).decimals)⟩

instance : HMul (Amount s) (Amount t) (Amount (s.product t)) := ⟨mul⟩

/-- The same value at another scale. Nothing is lost at a scale with more digits; at one with fewer
the digits beyond are cut off. -/
def rescale (t : Scale) (a : Amount s) : Amount t :=
  if s.decimals ≤ t.decimals then ⟨a.raw * 10 ^ (t.decimals - s.decimals)⟩
  else ⟨a.raw / 10 ^ (s.decimals - t.decimals)⟩

/-- The amount that an on-chain integer stands for: the contracts count in steps, too. -/
def ofWord (w : Word) : Amount s := ⟨w.toNat⟩

/-- The on-chain integer of an amount, which fails for an amount of 256 bits or more. -/
def toWord? (a : Amount s) : Except ConversionError Word := Word.ofNat? a.raw

@[simp] theorem raw_zero : (zero : Amount s).raw = 0 := rfl

@[simp] theorem raw_one : (one : Amount s).raw = s.unit := rfl

@[simp] theorem raw_add (a b : Amount s) : (a + b).raw = a.raw + b.raw := rfl

@[simp] theorem raw_monus (a b : Amount s) : (a.monus b).raw = a.raw - b.raw := by
  unfold monus sub?
  split
  · rfl
  · next h => exact (Nat.sub_eq_zero_of_le (Nat.le_of_not_le h)).symm

@[simp] theorem raw_mul (a : Amount s) (b : Amount t) :
    (a * b).raw = a.raw * b.raw / 10 ^ (s.decimals + t.decimals - (s.product t).decimals) := rfl

end Amount

end Arbitrage
