import Arbitrage.Settings.Given
import Arbitrage.Signing.Curve

/-!
# Signing keys

A signing key is a number between one and the order of the curve. Its account is the last twenty
bytes of the Keccak-256 hash of its public point. The command makes its signers of such keys
(`SigningKey.signers`); nothing else depends on them.
-/

namespace Arbitrage

/-- A private key: a number that is neither zero nor beyond the order, so that its public point is
not the neutral one. -/
structure SigningKey where
  scalar : Nat
  scalar_pos : 0 < scalar
  scalar_lt : scalar < Curve.order
  deriving DecidableEq

namespace SigningKey

def ofNat? (n : Nat) : Option SigningKey :=
  if h : 0 < n ∧ n < Curve.order then some ⟨n, h.1, h.2⟩ else none

/-- The key that is spelled by hexadecimal digits; what is no key is refused with a reason. -/
def ofDigits (digits : String) : Except String SigningKey :=
  match Hex.decodePairs ((Bytes.ofText digits).map UInt8.toNat) with
  | .error _ => .error "invalid hex"
  | .ok bytes => (ofNat? bytes.toNat).elim (.error "signature error") .ok

def publicPoint (k : SigningKey) : Curve.Point := Curve.Point.base.multiple k.scalar

/-- The account of a public point: the last twenty bytes of the hash of both coordinates. -/
def accountOf : Curve.Point → Address
  | .infinity => .repeated 0
  | .affine x y => .ofBytes ((Keccak.hash (Bytes.ofNat 32 x ++ Bytes.ofNat 32 y)).drop 12)

def account (k : SigningKey) : Address := accountOf k.publicPoint

/-- Keys as signers, as the command makes them. -/
def signers : Signers SigningKey := ⟨ofDigits, account⟩

end SigningKey

end Arbitrage
