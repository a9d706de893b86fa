import Arbitrage.Proofs.Address
import Arbitrage.Proofs.Market.Snapshot
import Arbitrage.Settings.Options

/-!
# How single options are read

Most options are texts that must be given, and are then handed to a reader (`reading`). For each
option it is told which texts are accepted, and that the error is about the option otherwise.

Nothing is assumed of the readers of web addresses and of keys. Which addresses are accepted is said
in terms of what the one reads (`exists_url_iff`); and which keys, in terms of the digits that the
other is given (`signerOf_trim_eq_ok_iff`).
-/

namespace Arbitrage

def SettingsError.option : SettingsError → String
  | .missing option | .invalid option _ => option
  | .invalidKey _ => "private_key"
  | .accountMismatch .. => "account"

section Guards

variable {ε ε' α β : Type} {x : Except ε α} {e : ε}

theorem bind_congr_of_ok {f g : α → Except ε β} (same : ∀ a, x = .ok a → f a = g a) :
    x >>= f = x >>= g := by
  cases x with
  | error e => rfl
  | ok a => exact same a rfl

theorem bind_eq_ok_iff {f : α → Except ε β} {b : β} :
    x >>= f = .ok b ↔ ∃ a, x = .ok a ∧ f a = .ok b := by
  refine ⟨exists_of_bind_eq_ok, ?_⟩
  rintro ⟨a, rfl, second⟩
  exact second

theorem of_bind_eq_error {f : α → Except ε β} (failed : x >>= f = .error e) :
    x = .error e ∨ ∃ a, x = .ok a ∧ f a = .error e := by
  cases x with
  | error other =>
      cases failed
      exact .inl rfl
  | ok a => exact .inr ⟨a, rfl, failed⟩

theorem map_eq_ok_iff {f : α → β} {b : β} : x.map f = .ok b ↔ ∃ a, x = .ok a ∧ f a = b := by
  cases x with
  | error e => exact ⟨nofun, nofun⟩
  | ok a => simp [Except.map]

theorem map_eq_error_iff {f : α → β} : x.map f = .error e ↔ x = .error e := by
  cases x <;> simp [Except.map]

theorem mapError_eq_ok_iff {f : ε → ε'} {a : α} : x.mapError f = .ok a ↔ x = .ok a := by
  cases x <;> simp [Except.mapError]

theorem mapError_eq_error_iff {f : ε → ε'} {e' : ε'} :
    x.mapError f = .error e' ↔ ∃ e, x = .error e ∧ f e = e' := by
  cases x with
  | error e => simp [Except.mapError]
  | ok a => exact ⟨nofun, nofun⟩

theorem discard_eq_ok_iff : discard x = .ok () ↔ ∃ a, x = .ok a := by
  cases x with
  | error e => exact ⟨nofun, nofun⟩
  | ok a => exact ⟨fun _ => ⟨a, rfl⟩, fun _ => rfl⟩

theorem discard_eq_error_iff : discard x = .error e ↔ x = .error e := by
  cases x with
  | error other =>
      constructor <;>
      · rintro ⟨⟩
        rfl
  | ok a => exact ⟨nofun, nofun⟩

section Order

variable {ι : Type} {guard : ι → Except ε Unit} {items : List ι}

theorem forM_eq_ok_iff : items.forM guard = .ok () ↔ ∀ i ∈ items, guard i = .ok () := by
  induction items with
  | nil => exact ⟨fun _ => List.forall_mem_nil _, fun _ => rfl⟩
  | cons i items ih =>
      rw [List.forall_mem_cons, ← ih, List.forM_eq_forM, List.forM_cons, ← List.forM_eq_forM]
      cases guard i with
      | error e => exact ⟨nofun, fun ⟨h, _⟩ => nomatch h⟩
      | ok => exact (and_iff_right rfl).symm

/-- What is reported comes from the first guard that fails, and all guards before it have passed. -/
theorem exists_first_of_forM (failed : items.forM guard = .error e) :
    ∃ before i after, items = before ++ i :: after ∧ (∀ j ∈ before, guard j = .ok ()) ∧
      guard i = .error e := by
  induction items with
  | nil => cases failed
  | cons i items ih =>
      rw [List.forM_eq_forM, List.forM_cons, ← List.forM_eq_forM] at failed
      cases first : guard i with
      | error other =>
          rw [first] at failed
          cases failed
          exact ⟨[], i, items, rfl, List.forall_mem_nil _, first⟩
      | ok =>
          rw [first] at failed
          obtain ⟨before, j, after, rfl, passed, refused⟩ := ih failed
          exact ⟨i :: before, j, after, rfl, List.forall_mem_cons.mpr ⟨first, passed⟩, refused⟩

end Order

end Guards

/-- A text that is more than blanks. A required option that is given as blanks counts as missing. -/
def Options.Given (text : String) : Prop := ¬ Text.Blank text.toList

instance (text : String) : Decidable (Options.Given text) :=
  inferInstanceAs (Decidable (¬ Text.Blank text.toList))

section PrivateKeys

variable {υ κ : Type} {signers : Signers κ} {text : String} {signer : κ} {e : SettingsError}

/-- The texts that a signer is made of: 64 digits, behind any number of marks `0x` and with blanks
around them, of which the library makes this signer. -/
def Signers.Accepts (signers : Signers κ) (text : String) (signer : κ) : Prop :=
  ∃ marks digits, Text.trimBlanks text.toList = Hex.marks marks ++ digits ∧ digits.length = 64 ∧
    (∀ c ∈ digits, ∃ n, Hex.Stands c n) ∧ signers.ofDigits (String.ofList digits) = .ok signer

theorem Signers.Accepts.given (accepts : signers.Accepts text signer) : Options.Given text := by
  obtain ⟨marks, digits, whole, length, -⟩ := accepts
  intro blank
  rw [Text.trimBlanks_of_blank blank, eq_comm, List.append_eq_nil_iff] at whole
  rw [whole.2] at length
  cases length

namespace Options

/-- What is left behind the marks must be the 64 digits of the key. -/
theorem signerOf_eq_ok_iff : signerOf signers text = .ok signer ↔
    (Text.dropHexMarks text.toList).length = 64 ∧
      (∀ c ∈ Text.dropHexMarks text.toList, ∃ n, Hex.Stands c n) ∧
        signers.ofDigits (String.ofList (Text.dropHexMarks text.toList)) = .ok signer := by
  simp only [signerOf, Bool.not_eq_true', Bool.eq_false_iff, ne_eq, ite_not]
  generalize Text.dropHexMarks text.toList = digits
  -- Digits are single bytes, so that the bytes that are counted are the characters.
  have length_bytes (spelled : ∀ c ∈ digits, ∃ n, Hex.Stands c n) :
      (Bytes.ofText (String.ofList digits)).length = digits.length := by
    rw [← List.length_map UInt8.toNat, ← Hex.codes, Hex.codes_of_ascii, List.length_map]
    intro c listed
    obtain ⟨n, stands⟩ := spelled c listed
    exact stands.ascii
  constructor
  · intro done
    split at done
    case isFalse => cases done
    case isTrue length =>
      split at done
      case isFalse => cases done
      case isTrue all =>
        have spelled := Hex.all_isDigit_iff.mp all
        exact ⟨length_bytes spelled ▸ length, spelled, mapError_eq_ok_iff.mp done⟩
  · rintro ⟨length, spelled, made⟩
    have enough : (Bytes.ofText (String.ofList digits)).length = keyDigits :=
      (length_bytes spelled).trans length
    rw [if_pos enough, if_pos (Hex.all_isDigit_iff.mpr spelled)]
    exact mapError_eq_ok_iff.mpr made

theorem signerOf_trim_eq_ok_iff :
    signerOf signers (Text.trim text) = .ok signer ↔ signers.Accepts text signer := by
  rw [signerOf_eq_ok_iff, Text.trim, String.toList_ofList]
  constructor
  · intro accepted
    obtain ⟨marks, whole⟩ := Hex.exists_marks_dropHexMarks (Text.trimBlanks text.toList)
    exact ⟨marks, _, whole, accepted⟩
  · rintro ⟨marks, digits, whole, length, spelled, made⟩
    rw [whole, Hex.dropHexMarks_marks_append, Hex.dropHexMarks_of_stands spelled]
    exact ⟨length, spelled, made⟩

theorem exists_invalidKey (failed : signerOf signers text = .error e) :
    ∃ reason, e = .invalidKey reason := by
  rw [signerOf] at failed
  split at failed
  · exact ⟨_, (Except.error.inj failed).symm⟩
  · split at failed
    · exact ⟨_, (Except.error.inj failed).symm⟩
    · obtain ⟨reason, -, rfl⟩ := mapError_eq_error_iff.mp failed
      exact ⟨reason, rfl⟩

end Options

end PrivateKeys

namespace Options

/-- What is checked, in the order of the checks: an item for each option that can be unsound. -/
inductive Item
  | rpcUrl
  | privateKey
  | account
  | vaultAddress
  | vaultLiquidationAddress
  | bookAddress
  | batchExecutorAddress
  | baseAsset
  | minProfit
  | maxEngagement
  | maxDepth
  | pollInterval
  deriving DecidableEq, Repr

namespace Item

def all : List Item := [rpcUrl, privateKey, account, vaultAddress, vaultLiquidationAddress,
  bookAddress, batchExecutorAddress, baseAsset, minProfit, maxEngagement, maxDepth, pollInterval]

def name : Item → String
  | rpcUrl => "rpc_url"
  | privateKey => "private_key"
  | account => "account"
  | vaultAddress => "vault_address"
  | vaultLiquidationAddress => "vault_liquidation_address"
  | bookAddress => "book_address"
  | batchExecutorAddress => "batch_executor_address"
  | baseAsset => "base_asset"
  | minProfit => "min_profit"
  | maxEngagement => "max_engagement"
  | maxDepth => "max_depth"
  | pollInterval => "poll_interval_ms"

theorem mem_all (i : Item) : i ∈ all := by cases i <;> decide

end Item

section Readers

variable {α κ : Type} {option value : String} {read : String → Except κ α}
  {wrong : κ → SettingsError} {a : α} {e : SettingsError}

theorem isEmpty_trim_iff : (Text.trim value).isEmpty = true ↔ Text.Blank value.toList := by
  rw [String.isEmpty_iff, Text.trim, String.ofList_eq_empty_iff, Text.trimBlanks_eq_nil_iff]

theorem required_of_blank (blank : Text.Blank value.toList) :
    required option value = .error (.missing option) := if_pos (isEmpty_trim_iff.mpr blank)

theorem required_of_given (given : Given value) : required option value = .ok (Text.trim value) :=
  if_neg (mt isEmpty_trim_iff.mp given)

theorem exists_required_iff : (∃ text, required option value = .ok text) ↔ Given value := by
  constructor
  · rintro ⟨text, done⟩ blank
    rw [required_of_blank blank] at done
    cases done
  · exact fun given => ⟨_, required_of_given given⟩

theorem option_of_required (failed : required option value = .error e) : e.option = option := by
  by_cases blank : Text.Blank value.toList
  · rw [required_of_blank blank] at failed
    cases failed
    rfl
  · rw [required_of_given blank] at failed
    cases failed

/-- A required option is handed to a reader, and what the reader has against it is put in terms of
the option. -/
def reading (option : String) (read : String → Except κ α) (wrong : κ → SettingsError)
    (value : String) : Except SettingsError α := do
  let text ← required option value
  (read text).mapError wrong

theorem reading_of_blank (blank : Text.Blank value.toList) :
    reading option read wrong value = .error (.missing option) := by
  rw [reading, required_of_blank blank]
  rfl

theorem reading_of_given (given : Given value) :
    reading option read wrong value = (read (Text.trim value)).mapError wrong := by
  rw [reading, required_of_given given]
  rfl

theorem reading_eq_ok_iff :
    reading option read wrong value = .ok a ↔ Given value ∧ read (Text.trim value) = .ok a := by
  by_cases given : Given value
  case neg =>
    rw [reading_of_blank (not_not.mp given)]
    exact ⟨nofun, fun ⟨other, _⟩ => absurd other given⟩
  case pos =>
    rw [reading_of_given given, and_iff_right given, mapError_eq_ok_iff]

theorem option_of_reading (about : ∀ fault, (wrong fault).option = option)
    (failed : reading option read wrong value = .error e) : e.option = option := by
  by_cases given : Given value
  case neg =>
    rw [reading_of_blank (not_not.mp given)] at failed
    cases failed
    rfl
  case pos =>
    rw [reading_of_given given] at failed
    obtain ⟨fault, -, rfl⟩ := mapError_eq_error_iff.mp failed
    exact about fault

theorem address_eq_ok_iff {a : Address} :
    address option value = .ok a ↔ Given value ∧ Address.parse (Text.trim value) = .ok a :=
  reading_eq_ok_iff

theorem amount_eq_ok_iff {a : Wad} :
    amount option value = .ok a ↔ Given value ∧ Amount.parse .wad (Text.trim value) = .ok a :=
  reading_eq_ok_iff

theorem exists_address_iff : (∃ a, address option value = .ok a) ↔
    Given value ∧ ∃ a, Address.parse (Text.trim value) = .ok a := by
  simp only [address_eq_ok_iff, exists_and_left]

theorem option_of_address (failed : address option value = .error e) : e.option = option :=
  option_of_reading (fun _ => rfl) failed

theorem option_of_amount (failed : amount option value = .error e) : e.option = option :=
  option_of_reading (fun _ => rfl) failed

end Readers

section Url

variable {υ : Type} {urls : UrlReader υ} {value : String} {e : SettingsError}

/-- The address of the node is read first, and then its scheme is looked at. -/
theorem url_eq (urls : UrlReader υ) (value : String) : url urls value = (do
    let u ← reading Item.rpcUrl.name urls.read (.invalid Item.rpcUrl.name) value
    if urls.scheme u = "http" ∨ urls.scheme u = "https" then return u
    else throw (.invalid Item.rpcUrl.name ("unsupported scheme '" ++ urls.scheme u ++ "'"))) := by
  rw [url, reading, bind_assoc]
  rfl

theorem exists_url_iff : (∃ u, url urls value = .ok u) ↔ Given value ∧
    ∃ u, urls.read (Text.trim value) = .ok u ∧
      (urls.scheme u = "http" ∨ urls.scheme u = "https") := by
  simp only [url_eq]
  constructor
  · rintro ⟨u, done⟩
    obtain ⟨u, first, second⟩ := exists_of_bind_eq_ok done
    obtain ⟨given, parsed⟩ := reading_eq_ok_iff.mp first
    refine ⟨given, u, parsed, ?_⟩
    split at second
    · assumption
    · cases second
  · rintro ⟨given, u, parsed, http⟩
    exact ⟨u, bind_eq_ok_iff.mpr ⟨u, reading_eq_ok_iff.mpr ⟨given, parsed⟩, if_pos http⟩⟩

theorem option_of_url (failed : url urls value = .error e) : e.option = Item.rpcUrl.name := by
  rw [url_eq] at failed
  rcases of_bind_eq_error failed with unread | ⟨u, -, foreign⟩
  · exact option_of_reading (fun _ => rfl) unread
  · split at foreign <;> cases foreign
    rfl

end Url

section BatchExecutor

variable {value : Option String} {text : String} {a : Address} {e : SettingsError}

theorem batchExecutor_of_blank (blank : ∀ text, value = some text → ¬ Given text) :
    batchExecutor value = .ok none := by
  cases value with
  | none => rfl
  | some text =>
      have empty : (Text.trim text).isEmpty = true := isEmpty_trim_iff.mpr (not_not.mp (blank text rfl))
      simp only [batchExecutor, Option.filter_some, empty, Bool.not_true, Bool.false_eq_true, if_false]

theorem batchExecutor_of_given (given : Given text) :
    batchExecutor (some text) = (address Item.batchExecutorAddress.name text).map some := by
  have more : (Text.trim text).isEmpty = false := Bool.eq_false_iff.mpr (mt isEmpty_trim_iff.mp given)
  simp only [batchExecutor, Option.filter_some, more, Bool.not_false, if_true, Item.name]

theorem batchExecutor_eq_ok_some_iff : batchExecutor value = .ok (some a) ↔
    ∃ text, value = some text ∧ Given text ∧ Address.parse (Text.trim text) = .ok a := by
  by_cases given : ∃ text, value = some text ∧ Given text
  · obtain ⟨text, rfl, given⟩ := given
    rw [batchExecutor_of_given given]
    constructor
    · intro done
      obtain ⟨_, read, ⟨⟩⟩ := map_eq_ok_iff.mp done
      exact ⟨text, rfl, address_eq_ok_iff.mp read⟩
    · rintro ⟨_, ⟨⟩, read⟩
      exact map_eq_ok_iff.mpr ⟨a, address_eq_ok_iff.mpr read, rfl⟩
  · rw [batchExecutor_of_blank fun text same more => given ⟨text, same, more⟩]
    exact ⟨nofun, fun ⟨text, same, more, _⟩ => absurd ⟨text, same, more⟩ given⟩

theorem exists_batchExecutor_iff : (∃ a?, batchExecutor value = .ok a?) ↔
    ∀ text, value = some text → Given text → ∃ a, Address.parse (Text.trim text) = .ok a := by
  constructor
  · rintro ⟨a?, done⟩ text rfl given
    rw [batchExecutor_of_given given] at done
    obtain ⟨a, read, -⟩ := map_eq_ok_iff.mp done
    exact ⟨a, (address_eq_ok_iff.mp read).2⟩
  · intro sound
    by_cases given : ∃ text, value = some text ∧ Given text
    · obtain ⟨text, same, given⟩ := given
      obtain ⟨a, read⟩ := sound text same given
      exact ⟨some a, batchExecutor_eq_ok_some_iff.mpr ⟨text, same, given, read⟩⟩
    · exact ⟨none, batchExecutor_of_blank fun text same more => given ⟨text, same, more⟩⟩

theorem isSome_batchExecutor_iff {a? : Option Address} (read : batchExecutor value = .ok a?) :
    a?.isSome = true ↔ ∃ text, value = some text ∧ Given text := by
  constructor
  · intro some
    obtain ⟨a, rfl⟩ := Option.isSome_iff_exists.mp some
    obtain ⟨text, same, given, -⟩ := batchExecutor_eq_ok_some_iff.mp read
    exact ⟨text, same, given⟩
  · rintro ⟨text, rfl, given⟩
    rw [batchExecutor_of_given given] at read
    obtain ⟨a, -, rfl⟩ := map_eq_ok_iff.mp read
    rfl

theorem option_of_batchExecutor (failed : batchExecutor value = .error e) :
    e.option = Item.batchExecutorAddress.name := by
  by_cases given : ∃ text, value = some text ∧ Given text
  · obtain ⟨text, rfl, given⟩ := given
    rw [batchExecutor_of_given given] at failed
    exact option_of_address (map_eq_error_iff.mp failed)
  · rw [batchExecutor_of_blank fun text same more => given ⟨text, same, more⟩] at failed
    cases failed

end BatchExecutor

section Limits

variable {amount : Wad} {depth milliseconds : Nat} {e : SettingsError}

theorem checkEngagement_eq_ok_iff : Strategy.checkEngagement amount = .ok () ↔ 0 < amount.raw := by
  rw [Strategy.checkEngagement, Amount.isZero, Nat.pos_iff_ne_zero]
  split <;> simp_all

theorem checkDepth_eq_ok_iff : Strategy.checkDepth depth = .ok () ↔ 2 ≤ depth ∧ depth ≤ 6 := by
  rw [Strategy.checkDepth]
  split
  · exact ⟨fun _ => ‹_›, fun _ => rfl⟩
  · exact ⟨nofun, fun inside => absurd inside ‹_›⟩

theorem exists_pollInterval_iff :
    (∃ d, pollInterval milliseconds = .ok d) ↔ 0 < milliseconds := by
  rw [Nat.pos_iff_ne_zero]
  by_cases none : milliseconds = 0
  · simp [pollInterval, none]
  · simp [pollInterval, none]

theorem option_of_checkEngagement (failed : Strategy.checkEngagement amount = .error e) :
    e.option = Item.maxEngagement.name := by
  rw [Strategy.checkEngagement] at failed
  split at failed <;> cases failed
  rfl

theorem option_of_checkDepth (failed : Strategy.checkDepth depth = .error e) :
    e.option = Item.maxDepth.name := by
  rw [Strategy.checkDepth] at failed
  split at failed <;> cases failed
  rfl

theorem option_of_pollInterval (failed : pollInterval milliseconds = .error e) :
    e.option = Item.pollInterval.name := by
  rw [pollInterval] at failed
  split at failed <;> cases failed
  rfl

end Limits

end Options

end Arbitrage
