import Arbitrage.Proofs.Text.Blank
import Arbitrage.Proofs.Text.Hex
import Arbitrage.Proofs.Word

/-!
# How addresses are spelled

A `Spelling` of an address is all that may stand for it: blanks, marks `0x`, at most one mark `0X`,
the forty digits of its bytes in any cases, and blanks again. A text is read as an address exactly if
it is one of its spellings (`parse_eq_ok_iff`); in particular what is written for an address is read
back, with or without a checksum.
-/

namespace Arbitrage.Address

/-- What may stand for an address: blanks around marks and digits, where the marks may be repeated
and the digits may be of any case. -/
structure Spelling (a : Address) where
  front : List Char
  back : List Char
  blank : Text.Blank (front ++ back)
  /-- How many marks `0x` there are, in front of everything else. -/
  marks : Nat
  /-- Whether there is a mark `0X` behind them. -/
  capital : Bool
  digits : List Char
  spells : Hex.Spells digits a.toBytes

namespace Spelling

variable {a : Address}

def core (m : a.Spelling) : List Char :=
  Hex.marks m.marks ++ ((if m.capital then ['0', 'X'] else []) ++ m.digits)

def text (m : a.Spelling) : List Char := m.front ++ m.core ++ m.back

theorem length_digits (m : a.Spelling) : m.digits.length = 40 := by
  rw [m.spells.length_eq, length_toBytes]
  rfl

theorem solid_core (m : a.Spelling) : Text.Solid m.core := by
  have small : Text.Solid ['0', 'x'] := by decide
  have large : Text.Solid ['0', 'X'] := by decide
  intro c listed
  rcases List.mem_append.mp listed with inMarks | behind
  · obtain ⟨_, same, inMark⟩ := List.mem_flatten.mp inMarks
    rw [List.eq_of_mem_replicate same] at inMark
    exact small c inMark
  · rcases List.mem_append.mp behind with inCapital | inDigits
    · split at inCapital
      · exact large c inCapital
      · cases inCapital
    · exact m.spells.solid c inDigits

/-- Nothing but the digits, perhaps behind the mark `0X`, is left of a spelling. -/
theorem dropHexMarks_core (m : a.Spelling) :
    Text.dropHexMarks m.core = (if m.capital then ['0', 'X'] else []) ++ m.digits := by
  rw [core, Hex.dropHexMarks_marks_append]
  split
  · rfl
  · exact m.spells.dropHexMarks_eq

end Spelling

variable {a : Address} {bytes : Bytes} {input : String}

theorem ofBytes_toBytes (a : Address) : ofBytes a.toBytes = a := by
  have small : a.bits.toNat < 256 ^ width := a.bits.isLt
  rw [ofBytes, toBytes, Bytes.toNat_ofNat, Nat.mod_eq_of_lt small, BitVec.ofNat_toNat]
  rfl

/-- Twenty bytes are those of one address. -/
theorem toBytes_ofBytes (length : bytes.length = width) : (ofBytes bytes).toBytes = bytes := by
  have small : bytes.toNat < 256 ^ width := length ▸ bytes.toNat_lt
  rw [toBytes, ofBytes, BitVec.toNat_ofNat, Nat.mod_eq_of_lt (show _ < 2 ^ 160 from small),
    ← length, Bytes.ofNat_toNat]

def stripped (input : String) : List Char := Text.dropHexMarks (Text.trimBlanks input.toList)

theorem exists_append_stripped (input : String) : ∃ front back n, Text.Blank (front ++ back) ∧
    input.toList = front ++ (Hex.marks n ++ stripped input) ++ back := by
  obtain ⟨front, back, blank, whole⟩ := Text.exists_append_trimBlanks input.toList
  obtain ⟨n, core⟩ := Hex.exists_marks_dropHexMarks (Text.trimBlanks input.toList)
  rw [core] at whole
  exact ⟨front, back, n, blank, whole⟩

theorem parse_of_decode (read : Hex.decode width (Hex.codes (stripped input)) = .ok bytes) :
    parse input = .ok (ofBytes bytes) := by
  rw [Hex.codes, stripped] at read
  simp only [parse, read]

theorem parse_of_fault {fault : Hex.Fault}
    (unread : Hex.decode width (Hex.codes (stripped input)) = .error fault) :
    parse input = .error (.badAddress input fault) := by
  rw [Hex.codes, stripped] at unread
  simp only [parse, unread]

theorem parse_eq_ok_iff_stripped : parse input = .ok a ↔
    ∃ digits, Hex.Spells digits a.toBytes ∧
      (stripped input = digits ∨ stripped input = '0' :: 'X' :: digits) := by
  have decoded : parse input = .ok a ↔
      ∃ bytes, Hex.decode width (Hex.codes (stripped input)) = .ok bytes ∧ ofBytes bytes = a := by
    cases result : Hex.decode width (Hex.codes (stripped input)) with
    | ok bytes => simp [parse_of_decode result]
    | error fault => simp [parse_of_fault result]
  rw [decoded]
  constructor
  · rintro ⟨bytes, read, rfl⟩
    obtain ⟨length, digits, marked, spells⟩ := Hex.decode_eq_ok_iff.mp read
    rw [toBytes_ofBytes length]
    refine ⟨digits, spells, ?_⟩
    rcases marked with plain | small | capital
    · exact .inl plain
    · exact absurd ⟨digits, small.symm⟩ (Hex.not_prefix_dropHexMarks _)
    · exact .inr capital
  · rintro ⟨digits, spells, left⟩
    refine ⟨a.toBytes, ?_, ofBytes_toBytes a⟩
    exact Hex.decode_eq_ok_iff.mpr ⟨a.length_toBytes, digits, left.imp_right .inr, spells⟩

/-- A text is read as an address exactly if it is a spelling of it. This is the whole grammar, since
a spelling has nothing but text in it. -/
theorem parse_eq_ok_iff : parse input = .ok a ↔ ∃ m : a.Spelling, m.text = input.toList := by
  rw [parse_eq_ok_iff_stripped]
  constructor
  · rintro ⟨digits, spells, left⟩
    obtain ⟨front, back, n, blank, whole⟩ := exists_append_stripped input
    rw [whole]
    rcases left with plain | capital
    · exact ⟨⟨front, back, blank, n, false, digits, spells⟩, by rw [plain]; rfl⟩
    · exact ⟨⟨front, back, blank, n, true, digits, spells⟩, by rw [capital]; rfl⟩
  · rintro ⟨m, whole⟩
    refine ⟨m.digits, m.spells, ?_⟩
    rw [stripped, ← whole, Spelling.text, Text.trimBlanks_append m.blank (.of_solid m.solid_core),
      m.dropHexMarks_core]
    cases m.capital
    · exact .inl rfl
    · exact .inr rfl

/-- What spells an address is no shorter than its digits, which is how a symbol is told from an
address. -/
theorem le_length_of_parse (read : parse input = .ok a) :
    40 ≤ (Text.trimBlanks input.toList).length := by
  obtain ⟨digits, spells, left⟩ := parse_eq_ok_iff_stripped.mp read
  have length : digits.length = 40 := by
    rw [spells.length_eq, length_toBytes]
    rfl
  obtain ⟨n, whole⟩ := Hex.exists_marks_dropHexMarks (Text.trimBlanks input.toList)
  have kept : (stripped input).length ≤ (Text.trimBlanks input.toList).length := by
    rw [whole, List.length_append]
    exact Nat.le_add_left ..
  refine Nat.le_trans ?_ kept
  rcases left with plain | capital
  · rw [plain, length]
  · rw [capital, List.length_cons, List.length_cons, length]
    decide

section Writing

variable {front back cs : List Char}

/-- The digits of an address may be written in any mixture of cases, and blanks around it. -/
theorem parse_of_cases (blank : Text.Blank (front ++ back))
    (mixed : cs.map Char.toLower = Hex.encode a.toBytes) :
    parse (String.ofList (front ++ '0' :: 'x' :: cs ++ back)) = .ok a := by
  let m : a.Spelling := ⟨front, back, blank, 1, false, cs, Hex.spells_iff_map_toLower.mpr mixed⟩
  refine parse_eq_ok_iff.mpr ⟨m, ?_⟩
  rw [String.toList_ofList]
  rfl

theorem parse_of_digits (mixed : cs.map Char.toLower = Hex.encode a.toBytes) :
    parse (String.ofList ('0' :: 'x' :: cs)) = .ok a := by
  have unblank : Text.Blank ([] ++ []) := List.forall_mem_nil _
  have read := parse_of_cases unblank mixed
  rwa [List.append_nil] at read

theorem parse_hex (a : Address) : parse a.hex = .ok a :=
  parse_of_digits (Hex.map_toLower_encode a.toBytes)

/-- Raising the case of some digits changes nothing but cases, so that a checksummed address is read
like a plain one. -/
theorem map_toLower_raised {digits marks : List Char}
    (lower : ∀ c ∈ digits, c.toLower = c ∧ c.toUpper.toLower = c)
    (enough : digits.length ≤ marks.length) :
    (List.zipWith (fun c mark => if '8' ≤ mark then c.toUpper else c) digits marks).map
      Char.toLower = digits := by
  induction digits generalizing marks with
  | nil => rfl
  | cons c digits ih =>
      obtain ⟨plain, raised⟩ := lower c List.mem_cons_self
      cases marks with
      | nil => cases enough
      | cons mark marks =>
          have later := ih (fun d listed => lower d (List.mem_cons_of_mem c listed))
            (Nat.le_of_succ_le_succ enough)
          rw [List.zipWith_cons_cons, List.map_cons, later]
          split
          · rw [raised]
          · rw [plain]

theorem length_hash (message : Bytes) : (Keccak.hash message).length = 32 := by
  simp [Keccak.hash, Keccak.writeLane]

theorem parse_checksum (a : Address) : parse a.checksum = .ok a := by
  refine parse_of_digits (map_toLower_raised (fun _ => Hex.toLower_of_mem_encode) ?_)
  rw [(Hex.spells_encode _).length_eq, (Hex.spells_encode _).length_eq, length_toBytes,
    length_hash]
  decide

end Writing

end Arbitrage.Address
