import Arbitrage.Address
import Arbitrage.Proofs.Text.Blank
import Mathlib.Data.List.Induction

/-!
# Hexadecimal digits in texts

A text is handed to the reader of hexadecimal digits as its bytes, so that a character beyond ASCII
counts for several digits, none of them valid. What is read as bytes of a given number are therefore
exactly the texts whose characters stand for the bytes, two for each, perhaps behind one mark
(`decode_eq_ok_iff`). The digits may be in either case.
-/

namespace Arbitrage.Hex

def lowerDigits : List Char := "0123456789abcdef".toList

def upperDigits : List Char := "0123456789ABCDEF".toList

/-- A digit in either case stands for its place among the sixteen. -/
def Stands (c : Char) (n : Nat) : Prop := lowerDigits[n]? = some c ∨ upperDigits[n]? = some c

/-- Two digits spell a byte, the first one counting its sixteens. -/
inductive Spells : List Char → Bytes → Prop
  | nil : Spells [] []
  | cons {c d : Char} {cs : List Char} {b : UInt8} {bytes : Bytes} (high : Stands c (b.toNat / 16))
      (low : Stands d (b.toNat % 16)) (rest : Spells cs bytes) : Spells (c :: d :: cs) (b :: bytes)

/-- The codes of the bytes of a text, which is what the readers of digits look at. -/
def codes (cs : List Char) : List Nat := (Bytes.ofText (String.ofList cs)).map UInt8.toNat

variable {c : Char} {n width position : Nat} {cs digits : List Char} {bytes : Bytes}

section Codes

theorem toList_eq_data_toList (bytes : ByteArray) : bytes.toList = bytes.data.toList := by
  have loop (i : Nat) (before : List UInt8) :
      ByteArray.toList.loop bytes i before = before.reverse ++ bytes.data.toList.drop i := by
    fun_induction ByteArray.toList.loop bytes i before with
    | case1 i before inside ih =>
        have there : i < bytes.data.toList.length := by simpa using inside
        have same : bytes.get! i = bytes.data.toList[i] := by
          rw [ByteArray.get!, Array.getElem_toList]
          exact getElem!_pos bytes.data i inside
        rw [ih, List.drop_eq_getElem_cons there, same, List.reverse_cons, List.append_assoc]
        rfl
    | case2 i before outside =>
        rw [List.drop_eq_nil_of_le (by simpa using Nat.le_of_not_lt outside), List.append_nil]
  exact loop 0 []

/-- The bytes of a text are those of its characters one after the other. -/
theorem codes_eq (cs : List Char) :
    codes cs = cs.flatMap fun c => (String.utf8EncodeChar c).map UInt8.toNat := by
  rw [codes, Bytes.ofText, String.toUTF8_eq_toByteArray, String.toByteArray_ofList,
    toList_eq_data_toList, List.utf8Encode, List.data_toByteArray, List.map_flatMap]

theorem codes_of_ascii (ascii : ∀ c ∈ cs, c.toNat < 128) : codes cs = cs.map Char.toNat := by
  rw [codes_eq]
  induction cs with
  | nil => rfl
  | cons c cs ih =>
      have small : c.val.toNat ≤ 127 := Nat.lt_succ_iff.mp (ascii c List.mem_cons_self)
      have byte : UInt8.toNat (UInt8.ofNat c.val.toNat) = c.toNat :=
        UInt8.toNat_ofNat_of_lt' (Nat.lt_of_le_of_lt small (by decide))
      rw [List.flatMap_cons, ih fun d listed => ascii d (List.mem_cons_of_mem c listed),
        List.map_cons, String.utf8EncodeChar, if_pos small, List.map_singleton, byte]
      rfl

theorem exists_large_byte (wide : 128 ≤ c.toNat) :
    ∃ b ∈ String.utf8EncodeChar c, 128 ≤ b.toNat := by
  have beyond : ¬ c.val.toNat ≤ 127 := Nat.not_le.mpr wide
  rw [String.utf8EncodeChar, if_neg beyond]
  split
  · exact ⟨_, List.mem_cons_self, by rw [UInt8.toNat_ofNat']; omega⟩
  · split <;> exact ⟨_, List.mem_cons_self, by rw [UInt8.toNat_ofNat']; omega⟩

theorem ascii_of_codes (small : ∀ n ∈ codes cs, n < 128) : ∀ c ∈ cs, c.toNat < 128 := by
  intro c listed
  rw [codes_eq] at small
  by_contra wide
  obtain ⟨b, inside, large⟩ := exists_large_byte (Nat.le_of_not_lt wide)
  have := small b.toNat (List.mem_flatMap.mpr ⟨c, listed, List.mem_map_of_mem inside⟩)
  omega

end Codes

section Digits

theorem lt_of_value? {code : Nat} (value : value? code = some n) : code < 128 := by
  rw [value?] at value
  split at value
  · omega
  · split at value
    · omega
    · split at value
      · omega
      · cases value

theorem Stands.lt (stands : Stands c n) : n < 16 := by
  rcases stands with found | found <;> exact (List.getElem?_eq_some_iff.mp found).1

theorem value?_eq_some_iff : value? c.toNat = some n ↔ Stands c n := by
  constructor
  · intro value
    have each : ∀ code < 128, ∀ m ∈ value? code,
        lowerDigits[m]? = some (Char.ofNat code) ∨ upperDigits[m]? = some (Char.ofNat code) := by
      decide
    have stands := each c.toNat (lt_of_value? value) n value
    rwa [Char.ofNat_toNat] at stands
  · intro stands
    have each : ∀ m < 16, lowerDigits[m]?.bind (value? ·.toNat) = some m ∧
        upperDigits[m]?.bind (value? ·.toNat) = some m := by decide
    obtain ⟨lower, upper⟩ := each n stands.lt
    rcases stands with found | found
    · rwa [found] at lower
    · rwa [found] at upper

theorem Stands.ascii (stands : Stands c n) : c.toNat < 128 :=
  lt_of_value? (value?_eq_some_iff.mpr stands)

theorem all_isDigit_iff : cs.all isDigit = true ↔ ∀ c ∈ cs, ∃ n, Stands c n := by
  simp only [List.all_eq_true, isDigit, Option.isSome_iff_exists, value?_eq_some_iff]

theorem Stands.not_isBlank (stands : Stands c n) : Text.isBlank c = false := by
  have each : Text.Solid (lowerDigits ++ upperDigits) := by decide
  exact each c (List.mem_append.mpr (stands.imp List.mem_of_getElem? List.mem_of_getElem?))

theorem Spells.exists_stands (spells : Spells digits bytes) : ∀ c ∈ digits, ∃ n, Stands c n := by
  induction spells with
  | nil => exact nofun
  | cons high low _ ih =>
      exact List.forall_mem_cons.mpr ⟨⟨_, high⟩, List.forall_mem_cons.mpr ⟨⟨_, low⟩, ih⟩⟩

theorem Spells.ascii (spells : Spells digits bytes) : ∀ c ∈ digits, c.toNat < 128 := by
  intro c listed
  obtain ⟨n, stands⟩ := spells.exists_stands c listed
  exact stands.ascii

theorem Spells.solid (spells : Spells digits bytes) : Text.Solid digits := by
  intro c listed
  obtain ⟨n, stands⟩ := spells.exists_stands c listed
  exact stands.not_isBlank

theorem Spells.length_eq (spells : Spells digits bytes) : digits.length = 2 * bytes.length := by
  induction spells with
  | nil => rfl
  | cons _ _ _ ih =>
      rw [List.length_cons, List.length_cons, List.length_cons, ih]
      omega

end Digits

section Reading

theorem decodeFrom_of_spells (spells : Spells digits bytes) (position : Nat) :
    decodeFrom position (digits.map Char.toNat) = .ok bytes := by
  induction spells generalizing position with
  | nil => rfl
  | @cons c d cs b bytes high low _ ih =>
      have byte : UInt8.ofNat (16 * (b.toNat / 16) + b.toNat % 16) = b := by
        rw [Nat.div_add_mod, UInt8.ofNat_toNat]
      rw [List.map_cons, List.map_cons, decodeFrom, value?_eq_some_iff.mpr high,
        value?_eq_some_iff.mpr low]
      simp only [ih, Except.map, byte]

theorem decodeFrom_cons_cons_eq_ok_iff {high low : Nat} {rest : List Nat} :
    decodeFrom position (high :: low :: rest) = .ok bytes ↔
      ∃ h l later, value? high = some h ∧ value? low = some l ∧
        decodeFrom (position + 2) rest = .ok later ∧ bytes = UInt8.ofNat (16 * h + l) :: later := by
  rw [decodeFrom]
  cases value? high with
  | none => simp
  | some h =>
      cases value? low with
      | none => simp
      | some l => cases decodeFrom (position + 2) rest <;> simp [Except.map, eq_comm]

theorem lt_of_decodeFrom {read : List Nat} (done : decodeFrom position read = .ok bytes) :
    ∀ n ∈ read, n < 128 := by
  induction read using List.twoStepInduction generalizing position bytes with
  | nil => exact nofun
  | singleton code => cases done
  | cons_cons high low rest ih _ =>
      obtain ⟨h, l, later, highValue, lowValue, done, -⟩ := decodeFrom_cons_cons_eq_ok_iff.mp done
      exact List.forall_mem_cons.mpr ⟨lt_of_value? highValue,
        List.forall_mem_cons.mpr ⟨lt_of_value? lowValue, ih done⟩⟩

theorem spells_of_decodeFrom (read : decodeFrom position (digits.map Char.toNat) = .ok bytes) :
    Spells digits bytes := by
  induction digits using List.twoStepInduction generalizing position bytes with
  | nil =>
      cases read
      exact .nil
  | singleton c => cases read
  | cons_cons c d cs ih _ =>
      obtain ⟨h, l, later, high, low, rest, rfl⟩ := decodeFrom_cons_cons_eq_ok_iff.mp read
      rw [value?_eq_some_iff] at high low
      have byte : (UInt8.ofNat (16 * h + l)).toNat = 16 * h + l := by
        have := high.lt
        have := low.lt
        exact UInt8.toNat_ofNat_of_lt' (show 16 * h + l < 256 by omega)
      refine .cons ?_ ?_ (ih rest)
      · rwa [byte, show (16 * h + l) / 16 = h by have := low.lt; omega]
      · rwa [byte, show (16 * h + l) % 16 = l by have := low.lt; omega]

end Reading

section Marks

/-- A mark may stand in front of the digits: nothing, `0x` or `0X`. -/
def Marked (digits cs : List Char) : Prop :=
  cs = digits ∨ cs = '0' :: 'x' :: digits ∨ cs = '0' :: 'X' :: digits

theorem dropMark_cases (read : List Nat) :
    dropMark read = read ∨ ∃ mark, (mark = 120 ∨ mark = 88) ∧ read = 48 :: mark :: dropMark read := by
  fun_cases dropMark read with
  | case1 mark rest isMark => exact .inr ⟨mark, isMark, rfl⟩
  | case2 => exact .inl rfl
  | case3 => exact .inl rfl

theorem exists_marked_of_dropMark {rest : List Nat}
    (dropped : dropMark (cs.map Char.toNat) = rest) :
    ∃ digits, rest = digits.map Char.toNat ∧ Marked digits cs := by
  subst dropped
  rcases dropMark_cases (cs.map Char.toNat) with same | ⟨mark, isMark, whole⟩
  · exact ⟨cs, same, .inl rfl⟩
  · obtain ⟨c, _, rfl, zero, whole⟩ := List.map_eq_cons_iff.mp whole
    obtain ⟨d, digits, rfl, second, rest⟩ := List.map_eq_cons_iff.mp whole
    refine ⟨digits, rest.symm, .inr ?_⟩
    obtain rfl : c = '0' := Char.toNat_inj.mp zero
    rcases isMark with rfl | rfl
    · obtain rfl : d = 'x' := Char.toNat_inj.mp second
      exact .inl rfl
    · obtain rfl : d = 'X' := Char.toNat_inj.mp second
      exact .inr rfl

theorem Spells.dropMark_eq (spells : Spells digits bytes) (marked : Marked digits cs) :
    dropMark (cs.map Char.toNat) = digits.map Char.toNat := by
  rcases marked with rfl | rfl | rfl
  · cases spells with
    | nil => rfl
    | @cons c d cs b bytes high low rest =>
        have value := value?_eq_some_iff.mpr low
        rcases dropMark_cases ((c :: d :: cs).map Char.toNat) with same | ⟨mark, isMark, whole⟩
        · exact same
        · obtain ⟨-, second⟩ := List.cons.inj whole
          rw [(List.cons.inj second).1] at value
          rcases isMark with rfl | rfl <;> cases value
  · rfl
  · rfl

/-- A text is read as so many bytes exactly if it spells them, perhaps behind a mark. -/
theorem decode_eq_ok_iff : decode width (codes cs) = .ok bytes ↔
    bytes.length = width ∧ ∃ digits, Marked digits cs ∧ Spells digits bytes := by
  rw [decode]
  constructor
  · intro done
    split at done
    · cases done
    split at done
    · cases done
    next even fits =>
    have ascii : ∀ n ∈ codes cs, n < 128 := by
      have digits := lt_of_decodeFrom done
      rcases dropMark_cases (codes cs) with same | ⟨mark, isMark, whole⟩
      · rwa [same] at digits
      · rw [whole]
        exact List.forall_mem_cons.mpr ⟨by decide, List.forall_mem_cons.mpr ⟨by omega, digits⟩⟩
    rw [codes_of_ascii (ascii_of_codes ascii)] at done fits
    obtain ⟨digits, rest, marked⟩ := exists_marked_of_dropMark rfl
    rw [rest] at done fits
    have spells := spells_of_decodeFrom done
    rw [List.length_map, spells.length_eq] at fits
    exact ⟨by omega, digits, marked, spells⟩
  · rintro ⟨rfl, digits, marked, spells⟩
    have ascii : ∀ c ∈ cs, c.toNat < 128 := by
      have digits := spells.ascii
      rcases marked with rfl | rfl | rfl <;> simp_all
    rw [codes_of_ascii ascii, spells.dropMark_eq marked]
    rw [List.length_map, spells.length_eq, if_neg (by omega), if_neg (by omega),
      decodeFrom_of_spells spells]

end Marks

section Writing

/-- Lowering the case of a character moves a capital letter by 32 places, and nothing else. -/
theorem toLower_cases (c : Char) :
    c.toLower = c ∨ 65 ≤ c.toNat ∧ c.toLower.toNat = c.toNat + 32 := by
  by_cases capital : 65 ≤ c.val ∧ c.val ≤ 90
  · have low : 65 ≤ c.toNat := capital.1
    have high : c.toNat ≤ 90 := capital.2
    have moved : c.toLower.val = c.val + 32 := congrArg Char.val (dif_pos capital)
    refine .inr ⟨low, ?_⟩
    show c.toLower.val.toNat = _
    rw [moved, UInt32.toNat_add]
    exact Nat.mod_eq_of_lt (show c.toNat + 32 < 2 ^ 32 by omega)
  · exact .inl (dif_neg capital)

/-- In lower case a digit is the one that is written. -/
theorem stands_iff : Stands c n ↔ n < 16 ∧ c.toLower = digit n := by
  constructor
  · intro stands
    have each : ∀ m < 16, lowerDigits[m]?.map Char.toLower = some (digit m) ∧
        upperDigits[m]?.map Char.toLower = some (digit m) := by decide
    obtain ⟨lower, upper⟩ := each n stands.lt
    refine ⟨stands.lt, ?_⟩
    rcases stands with found | found
    · rw [found] at lower
      exact Option.some.inj lower
    · rw [found] at upper
      exact Option.some.inj upper
  · rintro ⟨small, written⟩
    rcases toLower_cases c with same | ⟨low, moved⟩
    · have each : ∀ m < 16, lowerDigits[m]? = some (digit m) := by decide
      rw [← same, written]
      exact .inl (each n small)
    · have each : ∀ m < 16, 97 ≤ (digit m).toNat →
          upperDigits[m]? = some (Char.ofNat ((digit m).toNat - 32)) := by decide
      have found := each n small (by rw [← written]; omega)
      rw [← written, moved, Nat.add_sub_cancel, Char.ofNat_toNat] at found
      exact .inr found

/-- A text spells bytes if it is what is written for them, up to the cases of its letters. -/
theorem spells_iff_map_toLower : Spells cs bytes ↔ cs.map Char.toLower = encode bytes := by
  constructor
  · intro spells
    induction spells with
    | nil => rfl
    | cons high low _ ih =>
        rw [List.map_cons, List.map_cons, ih, (stands_iff.mp high).2, (stands_iff.mp low).2]
        rfl
  · intro written
    induction bytes generalizing cs with
    | nil =>
        rw [List.map_eq_nil_iff.mp written]
        exact .nil
    | cons b bytes ih =>
        obtain ⟨c, _, rfl, high, written⟩ := List.map_eq_cons_iff.mp written
        obtain ⟨d, cs, rfl, low, written⟩ := List.map_eq_cons_iff.mp written
        have := b.toNat_lt
        exact .cons (stands_iff.mpr ⟨by omega, high⟩) (stands_iff.mpr ⟨by omega, low⟩) (ih written)

theorem exists_digit_of_mem_encode (listed : c ∈ encode bytes) : ∃ m < 16, c = digit m := by
  obtain ⟨b, -, inside⟩ := List.mem_flatMap.mp listed
  have := b.toNat_lt
  simp only [List.mem_cons, List.not_mem_nil, or_false] at inside
  rcases inside with rfl | rfl
  · exact ⟨_, by omega, rfl⟩
  · exact ⟨_, by omega, rfl⟩

/-- Digits are written in lower case, and raising them to upper case can be undone. -/
theorem toLower_of_mem_encode (listed : c ∈ encode bytes) :
    c.toLower = c ∧ c.toUpper.toLower = c := by
  have each : ∀ m < 16, (digit m).toLower = digit m ∧ (digit m).toUpper.toLower = digit m := by
    decide
  obtain ⟨m, small, rfl⟩ := exists_digit_of_mem_encode listed
  exact each m small

theorem map_toLower_encode (bytes : Bytes) : (encode bytes).map Char.toLower = encode bytes :=
  (List.map_congr_left fun _ listed => (toLower_of_mem_encode listed).1).trans (List.map_id _)

theorem spells_encode (bytes : Bytes) : Spells (encode bytes) bytes :=
  spells_iff_map_toLower.mpr (map_toLower_encode bytes)

end Writing

section Stripping

def marks (n : Nat) : List Char := (List.replicate n ['0', 'x']).flatten

theorem exists_marks_dropHexMarks (cs : List Char) : ∃ n, cs = marks n ++ Text.dropHexMarks cs := by
  fun_induction Text.dropHexMarks cs with
  | case1 rest ih =>
      obtain ⟨n, whole⟩ := ih
      refine ⟨n + 1, ?_⟩
      rw [marks, List.replicate_succ, List.flatten_cons, List.append_assoc]
      exact congrArg (['0', 'x'] ++ ·) whole
  | case2 => exact ⟨0, rfl⟩

theorem not_prefix_dropHexMarks (cs : List Char) : ¬ ['0', 'x'] <+: Text.dropHexMarks cs := by
  fun_induction Text.dropHexMarks cs with
  | case1 rest ih => exact ih
  | case2 cs other =>
      rintro ⟨rest, rfl⟩
      exact other rest rfl

theorem dropHexMarks_of_not_prefix {cs : List Char} (other : ¬ ['0', 'x'] <+: cs) :
    Text.dropHexMarks cs = cs := by
  fun_cases Text.dropHexMarks cs with
  | case1 rest => exact absurd ⟨rest, rfl⟩ other
  | case2 => rfl

theorem dropHexMarks_of_stands (stands : ∀ c ∈ digits, ∃ n, Stands c n) :
    Text.dropHexMarks digits = digits := by
  apply dropHexMarks_of_not_prefix
  rintro ⟨rest, rfl⟩
  obtain ⟨n, mark⟩ := stands 'x' (by simp)
  cases value?_eq_some_iff.mpr mark

theorem Spells.dropHexMarks_eq (spells : Spells digits bytes) :
    Text.dropHexMarks digits = digits := dropHexMarks_of_stands spells.exists_stands

theorem dropHexMarks_marks_append (n : Nat) (cs : List Char) :
    Text.dropHexMarks (marks n ++ cs) = Text.dropHexMarks cs := by
  induction n with
  | zero => rfl
  | succ n ih => exact ih

end Stripping

end Arbitrage.Hex
