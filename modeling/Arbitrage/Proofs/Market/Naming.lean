import Arbitrage.Proofs.Address
import Arbitrage.Proofs.Market.Token

/-!
# What a base asset is called

A name means the token whose symbol it is, in any case, or whose address it spells. No symbol spells
an address, so that the order in which the two are tried does not matter (`resolveBase_eq_ok_iff`).
-/

namespace Arbitrage.Tokens

variable {t : Tokens} {name symbol : String} {a token : Address}

/-- The letters of a name in lower case, without blanks around them. -/
def lowered (name : String) : List Char := (Text.trim name).toList.map Char.toLower

theorem contains_iff : t.contains token = true ↔ token = t.gem ∨ token = t.skr ∨ token = t.sai := by
  simp only [contains, all, List.any_cons, List.any_nil, Bool.or_false, Bool.or_eq_true, beq_iff_eq]
  exact or_congr eq_comm (or_congr eq_comm eq_comm)

theorem mem_all_iff : (symbol, token) ∈ t.all ↔ symbol = "gem" ∧ token = t.gem ∨
    symbol = "skr" ∧ token = t.skr ∨ symbol = "sai" ∧ token = t.sai := by
  simp only [all, List.mem_cons, List.not_mem_nil, or_false, Prod.mk.injEq]

/-- The symbols are written in lower case, so that ignoring case is lowering the name. -/
theorem sameIgnoringCase_iff (listed : (symbol, token) ∈ t.all) :
    Text.sameIgnoringCase symbol (Text.trim name) = true ↔ lowered name = symbol.toList := by
  have plain : symbol.toList.map Char.toLower = symbol.toList := by
    rcases mem_all_iff.mp listed with ⟨rfl, -⟩ | ⟨rfl, -⟩ | ⟨rfl, -⟩ <;> rfl
  rw [Text.sameIgnoringCase, beq_iff_eq, plain, eq_comm]
  rfl

/-- The symbols differ, so that the first token of a symbol is the only one. -/
theorem find?_symbol (listed : (symbol, token) ∈ t.all) (same : lowered name = symbol.toList) :
    (t.all.find? fun (s, _) => Text.sameIgnoringCase s (Text.trim name)) = some (symbol, token) := by
  have search : (fun (s, _) => Text.sameIgnoringCase s (Text.trim name)) =
      fun entry : String × Address => entry.1.toList.map Char.toLower == symbol.toList := by
    funext entry
    rw [← same]
    rfl
  rw [search]
  rcases mem_all_iff.mp listed with ⟨rfl, rfl⟩ | ⟨rfl, rfl⟩ | ⟨rfl, rfl⟩ <;> simp [all]

theorem resolveBase_of_symbol (listed : (symbol, token) ∈ t.all)
    (same : lowered name = symbol.toList) : t.resolveBase name = .ok token := by
  simp only [resolveBase, find?_symbol listed same]

section NoSymbol

variable (other : ∀ entry ∈ t.all, lowered name ≠ entry.1.toList)

include other

theorem find?_no_symbol :
    (t.all.find? fun (s, _) => Text.sameIgnoringCase s (Text.trim name)) = none :=
  List.find?_eq_none.mpr fun entry listed same =>
    other entry listed ((sameIgnoringCase_iff listed).mp same)

/-- A name that is no symbol is read as an address. -/
theorem resolveBase_of_read (read : Address.parse (Text.trim name) = .ok a) : t.resolveBase name =
    if t.contains a then .ok a else .error (.unknownBaseAsset (Text.trim name)) := by
  simp only [resolveBase, find?_no_symbol other, read]

theorem resolveBase_of_unread {e : ConversionError}
    (unread : Address.parse (Text.trim name) = .error e) :
    t.resolveBase name = .error (.unknownBaseAsset (Text.trim name)) := by
  simp only [resolveBase, find?_no_symbol other, unread]

end NoSymbol

theorem length_symbol (listed : (symbol, token) ∈ t.all) : symbol.toList.length = 3 := by
  rcases mem_all_iff.mp listed with ⟨rfl, -⟩ | ⟨rfl, -⟩ | ⟨rfl, -⟩ <;> rfl

theorem not_symbol_of_parse (read : Address.parse (Text.trim name) = .ok a) :
    ∀ entry ∈ t.all, lowered name ≠ entry.1.toList := by
  intro entry listed same
  have enough := Address.le_length_of_parse read
  have short : (Text.trim name).toList.length = 3 := by
    rw [← length_symbol listed, ← same, lowered, List.length_map]
  rw [Text.trim, String.toList_ofList] at short
  rw [Text.trim, String.toList_ofList, Text.trimBlanks_trimBlanks, short] at enough
  exact absurd enough (by decide)

theorem resolveBase_eq_ok_iff : t.resolveBase name = .ok a ↔
    (∃ symbol, (symbol, a) ∈ t.all ∧ lowered name = symbol.toList) ∨
      Address.parse (Text.trim name) = .ok a ∧ t.contains a = true := by
  by_cases named : ∃ entry ∈ t.all, lowered name = entry.1.toList
  · obtain ⟨⟨symbol, token⟩, listed, same⟩ := named
    rw [resolveBase_of_symbol listed same]
    constructor
    · intro found
      cases found
      exact .inl ⟨symbol, listed, same⟩
    · rintro (⟨symbol, other, also⟩ | ⟨read, -⟩)
      · rw [← resolveBase_of_symbol listed same, resolveBase_of_symbol other also]
      · exact absurd same (not_symbol_of_parse read _ listed)
  · have other : ∀ entry ∈ t.all, lowered name ≠ entry.1.toList :=
      fun entry listed same => named ⟨entry, listed, same⟩
    have none : ¬ ∃ symbol, (symbol, a) ∈ t.all ∧ lowered name = symbol.toList :=
      fun ⟨symbol, listed, same⟩ => other (symbol, a) listed same
    rw [or_iff_right none]
    cases result : Address.parse (Text.trim name) with
    | error e =>
        rw [resolveBase_of_unread other result]
        exact ⟨nofun, fun ⟨read, _⟩ => nomatch read⟩
    | ok address =>
        rw [resolveBase_of_read other result]
        by_cases known : t.contains address = true
        · simp only [known, if_true, Except.ok.injEq]
          exact (and_iff_left_of_imp fun same => same ▸ known).symm
        · simp only [known, if_false, reduceCtorEq, Except.ok.injEq, false_iff, not_and]
          exact fun same also => known (same ▸ also)

/-- The one complaint about a name that means no token: it is an unknown base asset, and is quoted
without its blanks. -/
theorem resolveBase_error {e : MarketError} (failed : t.resolveBase name = .error e) :
    e = .unknownBaseAsset (Text.trim name) := by
  by_cases named : ∃ entry ∈ t.all, lowered name = entry.1.toList
  · obtain ⟨⟨symbol, token⟩, listed, same⟩ := named
    rw [resolveBase_of_symbol listed same] at failed
    cases failed
  · have other : ∀ entry ∈ t.all, lowered name ≠ entry.1.toList :=
      fun entry listed same => named ⟨entry, listed, same⟩
    cases result : Address.parse (Text.trim name) with
    | error fault =>
        rw [resolveBase_of_unread other result] at failed
        exact (Except.error.inj failed).symm
    | ok address =>
        rw [resolveBase_of_read other result] at failed
        split at failed
        · cases failed
        · exact (Except.error.inj failed).symm

theorem contains_of_resolveBase (found : t.resolveBase name = .ok a) : t.contains a = true := by
  rcases resolveBase_eq_ok_iff.mp found with ⟨symbol, listed, -⟩ | ⟨-, known⟩
  · exact List.any_eq_true.mpr ⟨(symbol, a), listed, beq_self_eq_true a⟩
  · exact known

theorem resolveBase_cases (t : Tokens) (name : String) :
    (∃ a, t.resolveBase name = .ok a) ∨
      t.resolveBase name = .error (.unknownBaseAsset (Text.trim name)) := by
  cases result : t.resolveBase name with
  | ok a => exact .inl ⟨a, rfl⟩
  | error e => exact .inr (congrArg _ (resolveBase_error result))

theorem exists_symbol_iff : (∃ symbol, (symbol, a) ∈ t.all ∧ lowered name = symbol.toList) ↔
    lowered name = "gem".toList ∧ a = t.gem ∨ lowered name = "skr".toList ∧ a = t.skr ∨
      lowered name = "sai".toList ∧ a = t.sai := by
  simp only [mem_all_iff]
  constructor
  · rintro ⟨symbol, ⟨rfl, rfl⟩ | ⟨rfl, rfl⟩ | ⟨rfl, rfl⟩, same⟩
    · exact .inl ⟨same, rfl⟩
    · exact .inr (.inl ⟨same, rfl⟩)
    · exact .inr (.inr ⟨same, rfl⟩)
  · rintro (⟨same, rfl⟩ | ⟨same, rfl⟩ | ⟨same, rfl⟩)
    · exact ⟨"gem", .inl ⟨rfl, rfl⟩, same⟩
    · exact ⟨"skr", .inr (.inl ⟨rfl, rfl⟩), same⟩
    · exact ⟨"sai", .inr (.inr ⟨rfl, rfl⟩), same⟩

/-- A text is read as an address exactly if, without blanks around it and marks `0x` in front, it is
the forty digits of the address behind at most one mark `0X`; an address written with digits of any
cases and blanks around it is read back; and a name means a token exactly if it is its symbol, in any
case, or an address of a token. -/
theorem names_exact (t : Tokens) (name : String) (a : Address) :
    (Address.parse name = .ok a ↔ ∃ digits, digits.length = 40 ∧ Hex.Spells digits a.toBytes ∧
      (Text.dropHexMarks (Text.trimBlanks name.toList) = digits ∨
        Text.dropHexMarks (Text.trimBlanks name.toList) = '0' :: 'X' :: digits)) ∧
    (Address.parse name = .ok a ↔ ∃ m : a.Spelling, m.digits.length = 40 ∧ m.text = name.toList) ∧
    (Address.parse a.hex = .ok a ∧ Address.parse a.checksum = .ok a ∧
      ∀ front back cs, Text.Blank (front ++ back) → cs.map Char.toLower = Hex.encode a.toBytes →
        Address.parse (String.ofList (front ++ '0' :: 'x' :: cs ++ back)) = .ok a) ∧
    (t.resolveBase name = .ok a ↔
      (lowered name = "gem".toList ∧ a = t.gem ∨ lowered name = "skr".toList ∧ a = t.skr ∨
        lowered name = "sai".toList ∧ a = t.sai) ∨
      Address.parse (Text.trim name) = .ok a ∧ (a = t.gem ∨ a = t.skr ∨ a = t.sai)) ∧
    ((∃ token, t.resolveBase name = .ok token) ∨
      t.resolveBase name = .error (.unknownBaseAsset (Text.trim name))) := by
  refine ⟨?stripped, ?whole, ⟨a.parse_hex, a.parse_checksum, ?written⟩, ?named,
    resolveBase_cases t name⟩
  case stripped =>
    rw [Address.parse_eq_ok_iff_stripped]
    refine exists_congr fun digits => (and_iff_right_of_imp ?_).symm
    rintro ⟨spells, -⟩
    rw [spells.length_eq, Address.length_toBytes]
    rfl
  case whole =>
    rw [Address.parse_eq_ok_iff]
    exact exists_congr fun m => (and_iff_right m.length_digits).symm
  case written => exact fun front back cs blank mixed => Address.parse_of_cases blank mixed
  case named => rw [resolveBase_eq_ok_iff, exists_symbol_iff, contains_iff]

/-- Blanks of three kinds around digits of both cases, which are read as the address that they
spell. -/
theorem names_exact_mixed :
    Text.Blank (['\t', ' '] ++ ['\n']) ∧
      "aBABabababABabababababababababababababAB".toList.map Char.toLower =
        Hex.encode (Address.repeated 0xab).toBytes ∧
      Address.parse (String.ofList (['\t', ' '] ++ '0' :: 'x' ::
        "aBABabababABabababababababababababababAB".toList ++ ['\n'])) =
          .ok (Address.repeated 0xab) := by
  have blank : Text.Blank (['\t', ' '] ++ ['\n']) := by decide
  have mixed : "aBABabababABabababababababababababababAB".toList.map Char.toLower =
      Hex.encode (Address.repeated 0xab).toBytes := by decide +kernel
  have exact := names_exact ⟨.repeated 0xab, .repeated 1, .repeated 2⟩ "gem" (.repeated 0xab)
  exact ⟨blank, mixed, exact.2.2.1.2.2 _ _ _ blank mixed⟩

end Arbitrage.Tokens
