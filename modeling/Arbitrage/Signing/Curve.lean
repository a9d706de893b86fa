import Arbitrage.Natural

/-!
# The curve of the signing keys

Points of the curve `y² = x³ + 7` over the integers modulo the prime `2²⁵⁶ - 2³² - 977`, with the
usual chord and tangent addition. The multiples of the base point form a group of prime order.
-/

namespace Arbitrage.Curve

def modulus : Nat := 2 ^ 256 - 2 ^ 32 - 977

def order : Nat := 0xfffffffffffffffffffffffffffffffebaaedce6af48a03bbfd25e8cd0364141

/-- A point of the curve: the neutral one, which has no coordinates, or a pair of them. -/
inductive Point
  | infinity
  | affine (x y : Nat)
  deriving DecidableEq, Repr

def Point.base : Point := .affine
  0x79be667ef9dcbbac55a06295ce870b07029bfcdb2dce28d959f2815b16f81798
  0x483ada7726a3c4655da4fbfc0e1108a8fd17b448a68554199c47d08ffb10d4b8

def sub (a b : Nat) : Nat := (a + (modulus - b % modulus)) % modulus

def power (a n : Nat) : Nat :=
  if n = 0 then 1
  else
    let half := power (a * a % modulus) (n / 2)
    if n % 2 = 1 then a * half % modulus else half
termination_by n
decreasing_by omega

/-- The reciprocal modulo the modulus, which is prime. -/
def inverse (a : Nat) : Nat := power (a % modulus) (modulus - 2)

/-- The third point of a line with this slope through two points, with its ordinate negated. -/
def chord (slope x₁ y₁ x₂ : Nat) : Point :=
  let x := sub (slope * slope) (x₁ + x₂)
  .affine x (sub (slope * sub x₁ x) y₁)

def Point.double : Point → Point
  | .infinity => .infinity
  | .affine x y =>
    if y = 0 then .infinity else chord (3 * x * x * inverse (2 * y) % modulus) x y x

def Point.add : Point → Point → Point
  | .infinity, q => q
  | p, .infinity => p
  | .affine x₁ y₁, .affine x₂ y₂ =>
    if x₁ = x₂ then if y₁ = y₂ then Point.double (.affine x₁ y₁) else .infinity
    else chord (sub y₂ y₁ * inverse (sub x₂ x₁) % modulus) x₁ y₁ x₂

def Point.multiple (p : Point) (n : Nat) : Point :=
  if n = 0 then .infinity
  else
    let rest := p.double.multiple (n / 2)
    if n % 2 = 1 then p.add rest else rest
termination_by n
decreasing_by omega

end Arbitrage.Curve
