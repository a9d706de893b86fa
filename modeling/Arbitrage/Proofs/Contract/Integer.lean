import Arbitrage.Market.Edge
import Arbitrage.Proofs.Word

/-!
# On-chain integers lose nothing

A number goes into a word through the fewest bytes that spell it, aligned to the right in 32 bytes,
and comes out of the word through those 32 bytes. That is lossless both ways, and refused exactly
where a word, or the half of one, is too narrow (`integers_lossless`). So an amount and the word of
the same count determine each other, and so do the number of an order and the bytes that name it.
-/

namespace Arbitrage

namespace Amount

variable {s : Scale} {a : Amount s} {w : Word}

/-- An amount is put into a word exactly if the word is one that it is read from. -/
theorem toWord?_eq_ok_iff : a.toWord? = .ok w ↔ ofWord w = a := by
  constructor
  · intro made
    ext
    exact Word.toNat_of_ofNat? made
  · rintro rfl
    exact Word.ofNat?_toNat w

end Amount

namespace Word

theorem exists_ofNat?_iff {n : Nat} : (∃ w, ofNat? n = .ok w) ↔ n < 2 ^ 256 := by
  constructor
  · rintro ⟨w, made⟩
    exact (ofNat?_eq_ok_iff.mp made).1
  · intro small
    exact ⟨_, ofNat?_eq_ok_iff.mpr ⟨small, rfl⟩⟩

theorem exists_toHalf?_iff {w : Word} : (∃ half, toHalf? w = .ok half) ↔ w.toNat < 2 ^ 128 := by
  constructor
  · rintro ⟨half, made⟩
    rw [← toHalf?_eq_ok_iff.mp made]
    exact half.isLt
  · intro small
    exact ⟨BitVec.ofNat 128 w.toNat, toHalf?_eq_ok_iff.mpr (Nat.mod_eq_of_lt small)⟩

/-- Numbers below `2 ^ 256`, and no others, have a word. It counts the same, its bytes are the fewest
that spell the number behind zeros, and reading them gives the number back; every word comes about in
this way. The half of a word has the numbers below `2 ^ 128`, and counts the same again. The bytes
that name an order are the digits of its number, most significant first, and name no other order. An
amount is read from exactly the word that it is put into. -/
theorem integers_lossless :
    (∀ n : Nat, ((∃ w, ofNat? n = .ok w) ↔ n < 2 ^ 256) ∧
      (2 ^ 256 ≤ n → ofNat? n = .error .tooLarge) ∧
      ∀ w, ofNat? n = .ok w → w.toNat = n ∧ toBytes w = (Bytes.bigEndian n).alignRight 32) ∧
    (∀ w : Word, (toBytes w).toNat = w.toNat ∧ ofNat? w.toNat = .ok w) ∧
    (∀ w : Word, ((∃ half, toHalf? w = .ok half) ↔ w.toNat < 2 ^ 128) ∧
      (2 ^ 128 ≤ w.toNat → toHalf? w = .error .tooLarge) ∧
      ∀ half, toHalf? w = .ok half → half.toNat = w.toNat) ∧
    Function.Injective (fun id : OrderId => toBytes id.word) ∧
    (∀ id : OrderId, (toBytes id.word).length = 32 ∧ (toBytes id.word).toNat = id.word.toNat ∧
      ∀ place < 32, (toBytes id.word)[place]? =
        some (UInt8.ofNat (id.word.toNat / 256 ^ (31 - place) % 256))) ∧
    ∀ (s : Scale) (a : Amount s), ((∃ w, a.toWord? = .ok w) ↔ a.raw < 2 ^ 256) ∧
      ∀ w, a.toWord? = .ok w ↔ Amount.ofWord w = a := by
  refine ⟨?_, ?_, ?_, ?_, ?_, ?_⟩
  · intro n
    exact ⟨exists_ofNat?_iff, ofNat?_eq_error_of_le,
      fun w made => ⟨toNat_of_ofNat? made, toBytes_of_ofNat? made⟩⟩
  · intro w
    exact ⟨toNat_toBytes w, ofNat?_toNat w⟩
  · intro w
    refine ⟨exists_toHalf?_iff, ?_, fun half => toHalf?_eq_ok_iff.mp⟩
    intro large
    exact if_neg (Nat.not_lt.mpr large)
  · intro id id' same
    exact congrArg OrderId.mk (toBytes_injective same)
  · intro id
    exact ⟨length_toBytes id.word, toNat_toBytes id.word,
      fun place inside => Bytes.getElem?_ofNat inside id.word.toNat⟩
  · intro s a
    exact ⟨exists_ofNat?_iff, fun w => Amount.toWord?_eq_ok_iff⟩

/-- The largest word fills all of its bytes, the next number is refused, and a half stops at
`2 ^ 128`. The number 258 takes two bytes, and its word ends in them. -/
theorem integers_lossless_limits :
    2 ^ 256 ≤ 2 ^ 256 ∧ ofNat? (2 ^ 256) = .error .tooLarge ∧
      ofNat? 258 = .ok 258 ∧ toBytes 258 = (Bytes.bigEndian 258).alignRight 32 ∧
      (Bytes.bigEndian 258).alignRight 32 = List.replicate 30 0 ++ [1, 2] ∧
      2 ^ 128 ≤ max.toNat ∧ toHalf? max = .error .tooLarge ∧
      toHalf? (.ofNat 256 (2 ^ 128 - 1)) = .ok (.allOnes 128) ∧
      (BitVec.allOnes 128).toNat = (BitVec.ofNat 256 (2 ^ 128 - 1)).toNat ∧
      30 < 32 ∧ (toBytes (OrderId.ofNat 258).word)[30]? = some 1 := by
  obtain ⟨numbers, -, halves, -, orders, -⟩ := integers_lossless
  have made : ofNat? 258 = .ok 258 := by decide +kernel
  have half : toHalf? (.ofNat 256 (2 ^ 128 - 1)) = .ok (.allOnes 128) := by decide +kernel
  have large : 2 ^ 128 ≤ max.toNat := by decide
  have refused : toHalf? max = .error .tooLarge := (halves max).2.1 large
  have same := (halves _).2.2 _ half
  have last := (orders (OrderId.ofNat 258)).2.2 30 (by decide)
  exact ⟨Nat.le_refl _, (numbers (2 ^ 256)).2.1 (Nat.le_refl _), made,
    ((numbers 258).2.2 258 made).2, by decide +kernel, large, refused, half, same, by decide,
    last.trans (by decide +kernel)⟩

end Word

end Arbitrage
