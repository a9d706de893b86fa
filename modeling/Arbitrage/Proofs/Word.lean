import Arbitrage.Amount.Basic
import Mathlib.Data.List.Induction

/-!
# Numbers in words

A number has a word exactly if it is below `2 ^ 256`, and the word then counts the same
(`Word.ofNat?_eq_ok_iff`). The conversion goes through the fewest bytes that spell the number, so
what has to be known of it is how many these are and that reading them gives the number back.
-/

namespace Arbitrage

namespace Bytes

theorem toNat_append_singleton (bytes : Bytes) (b : UInt8) :
    toNat (bytes ++ [b]) = 256 * toNat bytes + b.toNat := by
  simp [toNat]

theorem toNat_alignRight (width : Nat) (bytes : Bytes) : (bytes.alignRight width).toNat = bytes.toNat := by
  rw [alignRight]
  induction width - bytes.length with
  | zero => rfl
  | succ n ih =>
      rw [List.replicate_succ, List.cons_append, ← ih]
      simp [toNat]

theorem toNat_bigEndian (n : Nat) : (bigEndian n).toNat = n := by
  induction n using Nat.strongRecOn with
  | ind n ih =>
      rw [bigEndian]
      split
      · next small => simp [toNat, Nat.mod_eq_of_lt small]
      · have low : n % 256 < UInt8.size := Nat.mod_lt _ (by decide)
        rw [toNat_append_singleton, ih _ (by omega), UInt8.toNat_ofNat_of_lt' low]
        omega

theorem toNat_ofNat (width n : Nat) : (ofNat width n).toNat = n % 256 ^ width := by
  induction width generalizing n with
  | zero => simp [ofNat, toNat, Nat.mod_one]
  | succ width ih =>
      have low : n % 256 < UInt8.size := Nat.mod_lt _ (by decide)
      rw [ofNat, toNat_append_singleton, ih, UInt8.toNat_ofNat_of_lt' low, Nat.pow_succ',
        Nat.mod_mul, Nat.add_comm]

theorem bigEndian_ne_nil (n : Nat) : bigEndian n ≠ [] := by
  rw [bigEndian]
  split <;> simp

/-- A number takes at most so many bytes exactly if it is below that power of 256. -/
theorem length_bigEndian_le_iff (width n : Nat) :
    (bigEndian n).length ≤ width + 1 ↔ n < 256 ^ (width + 1) := by
  induction width generalizing n with
  | zero =>
      rw [bigEndian]
      split
      · next small => simpa using small
      · next large =>
          have := List.length_pos_iff.mpr (bigEndian_ne_nil (n / 256))
          simp only [List.length_append, List.length_singleton]
          omega
  | succ width ih =>
      have shorter := ih (n / 256)
      rw [bigEndian]
      split
      · next small =>
          have : 256 ≤ 256 ^ (width + 1 + 1) := Nat.le_self_pow (by omega) 256
          simp only [List.length_singleton]
          omega
      · rw [List.length_append, List.length_singleton, Nat.add_le_add_iff_right, shorter,
          Nat.div_lt_iff_lt_mul (by decide), ← Nat.pow_succ]

/-- A number written in as many bytes as it was read from is the same bytes again. -/
theorem ofNat_toNat (bytes : Bytes) : ofNat bytes.length bytes.toNat = bytes := by
  induction bytes using List.reverseRecOn with
  | nil => rfl
  | append_singleton bytes b ih =>
      have byte : b.toNat < 256 := b.toNat_lt
      have high : (256 * toNat bytes + b.toNat) / 256 = toNat bytes := by omega
      have low : (256 * toNat bytes + b.toNat) % 256 = b.toNat := by omega
      rw [toNat_append_singleton, List.length_append, List.length_singleton, ofNat, high, low, ih,
        UInt8.ofNat_toNat]

theorem toNat_lt (bytes : Bytes) : bytes.toNat < 256 ^ bytes.length := by
  rw [← ofNat_toNat bytes, toNat_ofNat, length_ofNat]
  exact Nat.mod_lt _ (Nat.pow_pos (by decide))

/-- Byte strings of one length differ if they spell different numbers. -/
theorem eq_of_toNat_eq {bytes bytes' : Bytes} (length : bytes.length = bytes'.length)
    (same : bytes.toNat = bytes'.toNat) : bytes = bytes' := by
  rw [← ofNat_toNat bytes, ← ofNat_toNat bytes', length, same]

/-- Every byte stands at the place of its digit, the most significant first. -/
theorem getElem?_ofNat {width place : Nat} (inside : place < width) (n : Nat) :
    (ofNat width n)[place]? = some (UInt8.ofNat (n / 256 ^ (width - 1 - place) % 256)) := by
  induction width generalizing n with
  | zero => exact absurd inside (Nat.not_lt_zero place)
  | succ width ih =>
      rw [ofNat]
      rcases Nat.lt_or_eq_of_le (Nat.lt_succ_iff.mp inside) with before | rfl
      · have power : 256 ^ (width + 1 - 1 - place) = 256 * 256 ^ (width - 1 - place) := by
          rw [← Nat.pow_succ']
          congr 1
          omega
        rw [List.getElem?_append_left (by rwa [length_ofNat]), ih before, Nat.div_div_eq_div_mul,
          power]
      · rw [List.getElem?_append_right (Nat.le_of_eq (length_ofNat ..))]
        simp

theorem length_alignRight {width : Nat} {bytes : Bytes} (fits : bytes.length ≤ width) :
    (bytes.alignRight width).length = width := by
  rw [alignRight, List.length_append, List.length_replicate]
  omega

end Bytes

namespace Word

theorem ofNat?_eq_ok_iff {n : Nat} {w : Word} :
    ofNat? n = .ok w ↔ n < 2 ^ 256 ∧ w = BitVec.ofNat 256 n := by
  have short := Bytes.length_bigEndian_le_iff 31 n
  rw [ofNat?]
  simp only [ofBytes, Bytes.toNat_alignRight, Bytes.toNat_bigEndian, width, short]
  split
  · next small => exact ⟨fun h => ⟨small, (Except.ok.inj h).symm⟩, fun h => by rw [h.2]⟩
  · next large => exact ⟨nofun, fun h => absurd h.1 large⟩

theorem ofNat?_eq_error_of_le {n : Nat} (large : 2 ^ 256 ≤ n) : ofNat? n = .error .tooLarge := by
  have short := Bytes.length_bigEndian_le_iff 31 n
  rw [ofNat?]
  simp only [width, short]
  exact if_neg (Nat.not_lt.mpr large)

@[simp] theorem toNat_max : max.toNat = 2 ^ 256 - 1 := rfl

@[simp] theorem toNat_toBytes (w : Word) : (toBytes w).toNat = w.toNat := by
  rw [toBytes, Bytes.toNat_ofNat]
  exact Nat.mod_eq_of_lt w.isLt

theorem toBytes_injective : Function.Injective toBytes := by
  intro w w' same
  apply BitVec.eq_of_toNat_eq
  rw [← toNat_toBytes w, ← toNat_toBytes w', same]

variable {n : Nat} {w : Word}

theorem toNat_of_ofNat? (made : ofNat? n = .ok w) : w.toNat = n := by
  obtain ⟨small, rfl⟩ := ofNat?_eq_ok_iff.mp made
  rw [BitVec.toNat_ofNat, Nat.mod_eq_of_lt small]

/-- A number is put into a word by aligning its bytes to the right. -/
theorem toBytes_of_ofNat? (made : ofNat? n = .ok w) :
    toBytes w = (Bytes.bigEndian n).alignRight width := by
  obtain ⟨small, -⟩ := ofNat?_eq_ok_iff.mp made
  have fits : (Bytes.bigEndian n).length ≤ width := (Bytes.length_bigEndian_le_iff 31 n).mpr small
  apply Bytes.eq_of_toNat_eq
  · rw [length_toBytes, Bytes.length_alignRight fits]
  · rw [toNat_toBytes, toNat_of_ofNat? made, Bytes.toNat_alignRight, Bytes.toNat_bigEndian]

theorem ofNat?_toNat (w : Word) : ofNat? w.toNat = .ok w :=
  ofNat?_eq_ok_iff.mpr ⟨w.isLt, (BitVec.ofNat_toNat 256 w).symm⟩

theorem toHalf?_eq_ok_iff {half : BitVec 128} : toHalf? w = .ok half ↔ half.toNat = w.toNat := by
  rw [toHalf?]
  split
  · next small =>
      rw [Except.ok.injEq, ← BitVec.toNat_inj, BitVec.toNat_setWidth, Nat.mod_eq_of_lt small, eq_comm]
  · next large => exact ⟨nofun, fun same => absurd (same ▸ half.isLt) large⟩

end Word

end Arbitrage
