import Arbitrage.Contract.Call
import Arbitrage.Failure
import Arbitrage.Settings.Given
import Arbitrage.Settings.Patience
import Arbitrage.Settings.Strategy

/-!
# Options and settings

The options that the keeper is started with are texts and numbers; checking them in a fixed order
turns them into settings or reports the first that is missing or wrong. Whatever passes this check
cannot be refused later: only the base asset still has to be found among the vault tokens.

How web addresses are read, and which signer belongs to a private key, is given (`UrlReader`,
`Signers`).
-/

namespace Arbitrage

/-- Options as they are given: texts, and the numbers that the command line has read already. -/
structure Options where
  rpcUrl : String := ""
  privateKey : String := ""
  account : String := ""
  vaultAddress : String := ""
  vaultLiquidationAddress : String := ""
  bookAddress : String := ""
  baseAsset : String := ""
  minProfit : String := ""
  maxEngagement : String := ""
  batchExecutorAddress : Option String := none
  maxDepth : Option Nat := none
  retryAttempts : Nat := 0
  retryBackoffMs : Nat := 0
  pollIntervalMs : Nat := 0
  deriving DecidableEq, Repr

/-- Options that passed the check. The account is that of the signer, and every limit is one that a
strategy accepts. -/
structure Settings (υ κ : Type) where
  url : υ
  signer : κ
  account : Address
  contracts : Contracts
  /-- The symbol or the address of the base asset. -/
  baseAsset : String
  minProfit : Wad
  maxEngagement : Wad
  maxDepth : Nat
  patience : Patience
  pollInterval : Duration

namespace Options

variable {υ κ : Type}

/-- The text of an option without the blanks around it, which must not be all. -/
def required (option value : String) : Except SettingsError String :=
  let trimmed := Text.trim value
  if trimmed.isEmpty then .error (.missing option) else .ok trimmed

def address (option value : String) : Except SettingsError Address := do
  let text ← required option value
  (Address.parse text).mapError fun e => .invalid option e.message

def amount (option value : String) : Except SettingsError Wad := do
  let text ← required option value
  (Amount.parse .wad text).mapError fun e => .invalid option e.message

/-- The address of the node, which must speak HTTP. The scheme is looked at only once the whole text
has been read. -/
def url (urls : UrlReader υ) (value : String) : Except SettingsError υ := do
  let text ← required "rpc_url" value
  let url ← (urls.read text).mapError (.invalid "rpc_url")
  if urls.scheme url = "http" ∨ urls.scheme url = "https" then return url
  else throw (.invalid "rpc_url" ("unsupported scheme '" ++ urls.scheme url ++ "'"))

/-- The digits of a private key, two for each of its 32 bytes. -/
def keyDigits : Nat := 64

/-- The signer of a private key. The key is given in digits of either case behind any number of `0x`;
these are counted and looked at before a signer is made of them. -/
def signerOf (signers : Signers κ) (text : String) : Except SettingsError κ :=
  let digits := Text.dropHexMarks text.toList
  if (Bytes.ofText (String.ofList digits)).length ≠ keyDigits then
    .error (.invalidKey "private_key must be 64 hex characters (32 bytes)")
  else if !digits.all Hex.isDigit then
    .error (.invalidKey "private_key contains invalid hex characters")
  else (signers.ofDigits (String.ofList digits)).mapError .invalidKey

/-- The signer, and the account, which must be the signer's own. -/
def signer (signers : Signers κ) (key account : String) : Except SettingsError (κ × Address) := do
  let signer ← signerOf signers (← required "private_key" key)
  let account ← address "account" account
  if signers.account signer = account then return (signer, account)
  else throw (.accountMismatch account.checksum (signers.account signer).checksum)

/-- The address of the batch executor; blanks are as good as nothing. -/
def batchExecutor (value : Option String) : Except SettingsError (Option Address) :=
  match value.filter fun text => !(Text.trim text).isEmpty with
  | none => .ok none
  | some text => (address "batch_executor_address" text).map some

/-- The addresses of the contracts, of which only the batch executor may be left out. -/
def contracts (o : Options) : Except SettingsError Contracts := do
  return {
    tub := ← address "vault_address" o.vaultAddress
    tap := ← address "vault_liquidation_address" o.vaultLiquidationAddress
    otc := ← address "book_address" o.bookAddress
    batchExecutor := ← batchExecutor o.batchExecutorAddress }

/-- The pause between two polls, which must take some time, so that a source is never asked without
end. -/
def pollInterval (milliseconds : Nat) : Except SettingsError Duration :=
  if milliseconds = 0 then .error (.invalid "poll_interval_ms" "must be greater than zero")
  else .ok (.ofMillis milliseconds)

/-- Check all options, in the order in which a wrong one is reported: the node, the signer and its
account, the contracts, the base asset, and then the limits. The first that is missing or wrong ends
the check. -/
def check (urls : UrlReader υ) (signers : Signers κ) (o : Options) :
    Except SettingsError (Settings υ κ) := do
  let url ← url urls o.rpcUrl
  let (signer, account) ← signer signers o.privateKey o.account
  let contracts ← o.contracts
  let baseAsset ← required "base_asset" o.baseAsset
  let minProfit ← amount "min_profit" o.minProfit
  let maxEngagement ← amount "max_engagement" o.maxEngagement
  Strategy.checkEngagement maxEngagement
  let maxDepth := o.maxDepth.getD defaultMaxDepth
  Strategy.checkDepth maxDepth
  let pollInterval ← pollInterval o.pollIntervalMs
  return {
    url, signer, account, contracts, baseAsset, minProfit, maxEngagement, maxDepth, pollInterval
    patience := .make o.retryAttempts (.ofMillis o.retryBackoffMs) }

end Options

/-- The strategy for a base asset; it is batched if a batch executor is known. -/
def Settings.strategy {υ κ : Type} (s : Settings υ κ) (base : Address) :
    Except SettingsError Strategy := do
  let strategy ← Strategy.make base s.minProfit s.maxEngagement
  let strategy ← strategy.withMaxDepth s.maxDepth
  return { strategy with batch := s.contracts.batchExecutor.isSome }

end Arbitrage
