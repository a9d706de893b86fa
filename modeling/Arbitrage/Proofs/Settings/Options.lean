import Arbitrage.Proofs.Settings.Reading

/-!
# Which options pass the check

The options are checked item by item. An item is `Sound` by itself, without a look at the order of
the checks; only the account is compared with the signer, if there is one. The check succeeds exactly
if all items are sound, and what it reports otherwise is about the first that is not.

All of this is so however web addresses are read and whatever signers there are.
-/

namespace Arbitrage.Options

section Steps

variable {υ κ : Type} (urls : UrlReader υ) (signers : Signers κ) (o : Options)

def keySigner : Except SettingsError κ := do
  signerOf signers (← required Item.privateKey.name o.privateKey)

/-- If the private key has a signer, the account must be its own. -/
def checkOwner (account : Address) : Except SettingsError Unit :=
  match o.keySigner signers with
  | .ok signer =>
    if signers.account signer = account then return ()
    else throw (.accountMismatch account.checksum (signers.account signer).checksum)
  | .error _ => return ()

/-- The check of one item by itself. Its result is the same as in the check of all options, whatever
the other items are, but for the account, whose owner cannot be told without a signer. -/
def step : Item → Except SettingsError Unit
  | .rpcUrl => discard (url urls o.rpcUrl)
  | .privateKey => discard (o.keySigner signers)
  | .account => do o.checkOwner signers (← address Item.account.name o.account)
  | .vaultAddress => discard (address Item.vaultAddress.name o.vaultAddress)
  | .vaultLiquidationAddress =>
    discard (address Item.vaultLiquidationAddress.name o.vaultLiquidationAddress)
  | .bookAddress => discard (address Item.bookAddress.name o.bookAddress)
  | .batchExecutorAddress => discard (batchExecutor o.batchExecutorAddress)
  | .baseAsset => discard (required Item.baseAsset.name o.baseAsset)
  | .minProfit => discard (amount Item.minProfit.name o.minProfit)
  | .maxEngagement => do Strategy.checkEngagement (← amount Item.maxEngagement.name o.maxEngagement)
  | .maxDepth => Strategy.checkDepth (o.maxDepth.getD defaultMaxDepth)
  | .pollInterval => discard (pollInterval o.pollIntervalMs)

/-- Checking all options is checking one item after the other, which makes the first unsound item
the one that is reported. -/
theorem discard_check : discard (o.check urls signers) = Item.all.forM (o.step urls signers) := by
  have signed : signer signers o.privateKey o.account = (do
      let signer ← o.keySigner signers
      let account ← address Item.account.name o.account
      if signers.account signer = account then return (signer, account)
      else throw (.accountMismatch account.checksum (signers.account signer).checksum)) := by
    rw [signer, keySigner, bind_assoc]
    rfl
  simp only [List.forM_eq_forM, Item.all, Item.name, List.forM_cons, List.forM_nil, step, check, signed,
    contracts, discard, map_const, Function.comp_apply, map_bind, bind_map_left, bind_assoc, pure_bind,
    map_pure, Function.const_apply]
  -- The one check that looks at two options is made when the signer is known.
  refine bind_congr fun url => bind_congr_of_ok fun signer read => bind_congr fun account => ?_
  simp only [checkOwner, read]
  by_cases own : signers.account signer = account
  · simp only [own, if_true, pure_bind]
  · simp only [own, if_false]
    rfl

/-- What an item must be like by itself. A text must be more than blanks, the reader of its kind must
accept it, and what is read must be within the limits; what may be left out has to be so only if it is
there. -/
def Sound : Item → Prop
  | .rpcUrl => Given o.rpcUrl ∧ ∃ url, urls.read (Text.trim o.rpcUrl) = .ok url ∧
      (urls.scheme url = "http" ∨ urls.scheme url = "https")
  | .privateKey => Given o.privateKey ∧ ∃ signer, signers.Accepts o.privateKey signer
  | .account => Given o.account ∧ ∃ account, Address.parse (Text.trim o.account) = .ok account ∧
      ∀ signer, signers.Accepts o.privateKey signer → signers.account signer = account
  | .vaultAddress => Given o.vaultAddress ∧ ∃ a, Address.parse (Text.trim o.vaultAddress) = .ok a
  | .vaultLiquidationAddress => Given o.vaultLiquidationAddress ∧
      ∃ a, Address.parse (Text.trim o.vaultLiquidationAddress) = .ok a
  | .bookAddress => Given o.bookAddress ∧ ∃ a, Address.parse (Text.trim o.bookAddress) = .ok a
  | .batchExecutorAddress => ∀ text, o.batchExecutorAddress = some text → Given text →
      ∃ a, Address.parse (Text.trim text) = .ok a
  | .baseAsset => Given o.baseAsset
  | .minProfit => Given o.minProfit ∧ ∃ a, Amount.parse .wad (Text.trim o.minProfit) = .ok a
  | .maxEngagement => Given o.maxEngagement ∧
      ∃ a, Amount.parse .wad (Text.trim o.maxEngagement) = .ok a ∧ 0 < a.raw
  | .maxDepth => ∀ depth, o.maxDepth = some depth → 2 ≤ depth ∧ depth ≤ 6
  | .pollInterval => 0 < o.pollIntervalMs

end Steps

section Check

variable {υ κ : Type} {urls : UrlReader υ} {signers : Signers κ} {o : Options} {e : SettingsError}
  {i : Item} {signer : κ}

theorem keySigner_eq_ok_iff :
    o.keySigner signers = .ok signer ↔ signers.Accepts o.privateKey signer := by
  rw [keySigner, ← signerOf_trim_eq_ok_iff]
  by_cases given : Given o.privateKey
  case pos =>
    rw [required_of_given given]
    rfl
  case neg =>
    rw [required_of_blank (not_not.mp given)]
    exact ⟨nofun, fun made => absurd (signerOf_trim_eq_ok_iff.mp made).given given⟩

theorem option_of_keySigner (failed : o.keySigner signers = .error e) :
    e.option = Item.privateKey.name := by
  rw [keySigner] at failed
  by_cases given : Given o.privateKey
  · rw [required_of_given given] at failed
    obtain ⟨reason, rfl⟩ := exists_invalidKey failed
    rfl
  · rw [required_of_blank (not_not.mp given)] at failed
    cases failed
    rfl

theorem checkOwner_eq_ok_iff {account : Address} : o.checkOwner signers account = .ok () ↔
    ∀ signer, signers.Accepts o.privateKey signer → signers.account signer = account := by
  simp only [← keySigner_eq_ok_iff]
  rw [checkOwner]
  cases o.keySigner signers with
  | error e => exact ⟨fun _ => nofun, fun _ => rfl⟩
  | ok signer =>
      by_cases own : signers.account signer = account
      · exact ⟨fun _ other same => Except.ok.inj same ▸ own, fun _ => if_pos own⟩
      · simp only [own, if_false]
        exact ⟨nofun, fun all => absurd (all signer rfl) own⟩

theorem option_of_checkOwner {account : Address} (failed : o.checkOwner signers account = .error e) :
    e.option = Item.account.name := by
  rw [checkOwner] at failed
  split at failed
  · split at failed <;> cases failed
    rfl
  · cases failed

/-- The check of an item succeeds exactly if the item is sound. -/
theorem step_eq_ok_iff : o.step urls signers i = .ok () ↔ o.Sound urls signers i := by
  cases i with
  | rpcUrl => exact discard_eq_ok_iff.trans exists_url_iff
  | privateKey =>
      refine discard_eq_ok_iff.trans ?_
      simp only [keySigner_eq_ok_iff]
      exact (and_iff_right_of_imp fun ⟨_, accepts⟩ => accepts.given).symm
  | account =>
      refine bind_eq_ok_iff.trans ?_
      simp only [address_eq_ok_iff, checkOwner_eq_ok_iff, and_assoc, exists_and_left]
      rfl
  | vaultAddress | vaultLiquidationAddress | bookAddress =>
      exact discard_eq_ok_iff.trans exists_address_iff
  | batchExecutorAddress => exact discard_eq_ok_iff.trans exists_batchExecutor_iff
  | baseAsset => exact discard_eq_ok_iff.trans exists_required_iff
  | minProfit =>
      refine discard_eq_ok_iff.trans ?_
      simp only [amount_eq_ok_iff, exists_and_left]
      rfl
  | maxEngagement =>
      refine bind_eq_ok_iff.trans ?_
      simp only [amount_eq_ok_iff, checkEngagement_eq_ok_iff, and_assoc, exists_and_left]
      rfl
  | maxDepth =>
      refine checkDepth_eq_ok_iff.trans ?_
      rw [Sound]
      cases o.maxDepth with
      | none => exact ⟨fun _ => nofun, fun _ => by decide⟩
      | some depth =>
          exact ⟨fun inside _ same => Option.some.inj same ▸ inside, fun sound => sound depth rfl⟩
  | pollInterval => exact discard_eq_ok_iff.trans exists_pollInterval_iff

/-- What the check of an item reports is about this item. -/
theorem option_of_step (failed : o.step urls signers i = .error e) : e.option = i.name := by
  cases i with
  | rpcUrl => exact option_of_url (discard_eq_error_iff.mp failed)
  | privateKey => exact option_of_keySigner (discard_eq_error_iff.mp failed)
  | account =>
      rcases of_bind_eq_error failed with unread | ⟨account, -, foreign⟩
      · exact option_of_address unread
      · exact option_of_checkOwner foreign
  | vaultAddress | vaultLiquidationAddress | bookAddress =>
      exact option_of_address (discard_eq_error_iff.mp failed)
  | batchExecutorAddress => exact option_of_batchExecutor (discard_eq_error_iff.mp failed)
  | baseAsset => exact option_of_required (discard_eq_error_iff.mp failed)
  | minProfit => exact option_of_amount (discard_eq_error_iff.mp failed)
  | maxEngagement =>
      rcases of_bind_eq_error failed with unread | ⟨a, -, zero⟩
      · exact option_of_amount unread
      · exact option_of_checkEngagement zero
  | maxDepth => exact option_of_checkDepth failed
  | pollInterval => exact option_of_pollInterval (discard_eq_error_iff.mp failed)

theorem exists_check_iff :
    (∃ s, o.check urls signers = .ok s) ↔ ∀ i, o.Sound urls signers i := by
  rw [← discard_eq_ok_iff, discard_check, forM_eq_ok_iff]
  simp only [step_eq_ok_iff, Item.mem_all, true_imp_iff]

/-- What the check reports is about the first item that is not sound. -/
theorem exists_first_of_check (failed : o.check urls signers = .error e) : ∃ before i after,
    Item.all = before ++ i :: after ∧ (∀ j ∈ before, o.Sound urls signers j) ∧
      ¬ o.Sound urls signers i ∧ e.option = i.name := by
  rw [← discard_eq_error_iff, discard_check] at failed
  obtain ⟨before, i, after, whole, passed, refused⟩ := exists_first_of_forM failed
  refine ⟨before, i, after, whole, fun j listed => step_eq_ok_iff.mp (passed j listed), ?_,
    option_of_step refused⟩
  intro sound
  rw [step_eq_ok_iff.mpr sound] at refused
  cases refused

theorem limits_of_check {s : Settings υ κ} (done : o.check urls signers = .ok s) :
    0 < s.maxEngagement.raw ∧ 2 ≤ s.maxDepth ∧ s.maxDepth ≤ 6 ∧
      batchExecutor o.batchExecutorAddress = .ok s.contracts.batchExecutor := by
  obtain ⟨url, -, done⟩ := exists_of_bind_eq_ok done
  obtain ⟨⟨signer, account⟩, -, done⟩ := exists_of_bind_eq_ok done
  obtain ⟨contracts, addresses, done⟩ := exists_of_bind_eq_ok done
  obtain ⟨baseAsset, -, done⟩ := exists_of_bind_eq_ok done
  obtain ⟨minProfit, -, done⟩ := exists_of_bind_eq_ok done
  obtain ⟨maxEngagement, -, done⟩ := exists_of_bind_eq_ok done
  obtain ⟨⟨⟩, engagement, done⟩ := exists_of_bind_eq_ok done
  obtain ⟨⟨⟩, depth, done⟩ := exists_of_bind_eq_ok done
  obtain ⟨pause, -, done⟩ := exists_of_bind_eq_ok done
  cases done
  refine ⟨checkEngagement_eq_ok_iff.mp engagement, (checkDepth_eq_ok_iff.mp depth).1,
    (checkDepth_eq_ok_iff.mp depth).2, ?_⟩
  obtain ⟨tub, -, addresses⟩ := exists_of_bind_eq_ok addresses
  obtain ⟨tap, -, addresses⟩ := exists_of_bind_eq_ok addresses
  obtain ⟨otc, -, addresses⟩ := exists_of_bind_eq_ok addresses
  obtain ⟨executor, read, addresses⟩ := exists_of_bind_eq_ok addresses
  cases addresses
  exact read

end Check

section Sample

/-- A reader that keeps addresses as they are written. On addresses that need no change, such as that
of the sample, any other reader does the same. -/
def verbatim : UrlReader String where
  read text := if ':' ∈ text.toList then .ok text else .error "relative URL without a base"
  scheme text := String.ofList (text.toList.takeWhile (· != ':'))

/-- A ring on which there is the least key only, for running the check without any arithmetic of
keys. -/
def leastKey : Signers Unit where
  ofDigits digits :=
    if digits = "0000000000000000000000000000000000000000000000000000000000000001" then .ok ()
    else .error "signature error"
  account _ := ⟨0x7e5f4552091a69125d5dfcb7b8c2659029395bdf⟩

/-- Options that are in order, with blanks and marks as they may come. -/
def sample : Options where
  rpcUrl := " http://127.0.0.1:8545/\n"
  privateKey := "0x0000000000000000000000000000000000000000000000000000000000000001"
  account := "0x7E5F4552091A69125d5DfCb7b8C2659029395Bdf"
  vaultAddress := "0x1111111111111111111111111111111111111111"
  vaultLiquidationAddress := "0X2222222222222222222222222222222222222222"
  bookAddress := "3333333333333333333333333333333333333333"
  baseAsset := "sai"
  minProfit := "0.5"
  maxEngagement := "100"
  batchExecutorAddress := some "0xaAaAaAaAaAaAaAaAaAaAaAaAaAaAaAaAaAaAaAaA"
  maxDepth := some 4
  pollIntervalMs := 1000

theorem signerOf_sample : signerOf leastKey (Text.trim sample.privateKey) = .ok () := by
  decide +kernel

theorem sound_sample : ∀ i, sample.Sound verbatim leastKey i := by
  intro i
  cases i with
  | rpcUrl => exact ⟨by decide +kernel, "http://127.0.0.1:8545/", by decide +kernel, by decide +kernel⟩
  | privateKey => exact ⟨by decide +kernel, (), signerOf_trim_eq_ok_iff.mp signerOf_sample⟩
  | account => exact ⟨by decide +kernel, leastKey.account (), by decide +kernel, fun _ _ => rfl⟩
  | vaultAddress => exact ⟨by decide +kernel, .repeated 0x11, by decide +kernel⟩
  | vaultLiquidationAddress => exact ⟨by decide +kernel, .repeated 0x22, by decide +kernel⟩
  | bookAddress => exact ⟨by decide +kernel, .repeated 0x33, by decide +kernel⟩
  | batchExecutorAddress =>
      rintro _ ⟨⟩ -
      exact ⟨.repeated 0xaa, by decide +kernel⟩
  | baseAsset => exact (by decide +kernel : Given sample.baseAsset)
  | minProfit => exact ⟨by decide +kernel, ⟨500000000000000000⟩, by decide +kernel⟩
  | maxEngagement => exact ⟨by decide +kernel, .ofUnits 100, by decide +kernel⟩
  | maxDepth =>
      rintro _ ⟨⟩
      decide
  | pollInterval => exact (by decide : 0 < sample.pollIntervalMs)

end Sample

end Arbitrage.Options
