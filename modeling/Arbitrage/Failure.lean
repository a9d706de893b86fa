import Arbitrage.Address
import Arbitrage.Amount.Decimal

/-!
# Failures

Every way in which an operation can fail, by domain, with the wording of each. A `Failure` is any of
them; it is transient when trying again may help, and it fixes the code with which a start-up that
it ends exits.
-/

namespace Arbitrage

/-- Errors of building and querying the graph of assets and exchanges. Keys of edges occur as text,
since only a reader looks at them. -/
inductive GraphError
  | assetNotFound (address : Address)
  | invalidAssetIndex (index : Nat)
  | invalidEdgeIndex (index : Nat)
  | duplicateEdge (key : String)
  | selfLoop (key : String)
  deriving DecidableEq, Repr

def GraphError.message : GraphError → String
  | .assetNotFound address => "Asset not found with address: " ++ address.checksum
  | .invalidAssetIndex index => "Invalid asset index: " ++ toString index
  | .invalidEdgeIndex index => "Invalid edge index: " ++ toString index
  | .duplicateEdge key => "Edge " ++ key ++ " already exists in the graph"
  | .selfLoop key => "Edge " ++ key ++ " connects an asset to itself"

/-- Errors of taking a snapshot of the market. Of these only `staleFeed` is expected in a working
market, and it costs the keeper no more than the block. -/
inductive MarketError
  | staleFeed
  | unknownBaseAsset (asset : String)
  | unknownToken (token : Address)
  | invalidVaultState (reason : String)
  | graph (error : GraphError)
  deriving DecidableEq, Repr

def MarketError.message : MarketError → String
  | .staleFeed => "Price feed is stale or missing"
  | .unknownBaseAsset asset => "Unknown base asset: " ++ asset
  | .unknownToken token => "Token " ++ token.checksum ++ " is not part of the market universe"
  | .invalidVaultState reason => "Invalid vault state: " ++ reason
  | .graph error => "Market graph error: " ++ error.message

/-- Errors of checking and sizing a path; a path that fails its check is passed over, and the run
goes on with the next. -/
inductive PathError
  | empty
  | tooShort (least actual : Nat)
  | tooLong (most actual : Nat)
  | invalid (reason : String)
  | disconnected (index next : Nat)
  | notCycle
  | repeatedEdge (key : String)
  | exceedsCapacity (step : Nat) (requested available : String)
  deriving DecidableEq, Repr

def PathError.message : PathError → String
  | .empty => "Empty path: no edges available"
  | .tooShort least actual =>
    "Path too short: minimum length is " ++ toString least ++ ", got " ++ toString actual
  | .tooLong most actual =>
    "Path too long: maximum length is " ++ toString most ++ ", got " ++ toString actual
  | .invalid reason => "Invalid path: " ++ reason
  | .disconnected index next =>
    "Edges " ++ toString index ++ " and " ++ toString next ++ " are not connected"
  | .notCycle => "Cycle detection failed: path does not start and end at the base asset"
  | .repeatedEdge key => "Edge " ++ key ++ " appears more than once in the path"
  | .exceedsCapacity step requested available =>
    "Amount " ++ requested ++ " exceeds capacity " ++ available ++ " at step " ++ toString step

/-- Errors of the options that the keeper starts with, each with the name of the option it is
about. -/
inductive SettingsError
  | missing (option : String)
  | invalid (option reason : String)
  | invalidKey (reason : String)
  | accountMismatch (account signer : String)
  deriving DecidableEq, Repr

def SettingsError.message : SettingsError → String
  | .missing option => "Missing required option: " ++ option
  | .invalid option reason => "Invalid value for " ++ option ++ ": " ++ reason
  | .invalidKey reason => "Invalid private key: " ++ reason
  | .accountMismatch account signer =>
    "Account " ++ account ++ " does not match the signing key address " ++ signer

/-- Errors of staging approvals and of submitting a plan. Steps are numbered from zero. -/
inductive SubmissionError
  | reverted (step : Nat) (hash : Word)
  | stepFailed (step completed : Nat) (reason : String)
  | approvalFailed (token spender : Address) (reason : String)
  | batchReverted (hash : Word)
  | emptyPlan
  | unencodable (amount reason : String)
  deriving DecidableEq, Repr

def SubmissionError.message : SubmissionError → String
  | .reverted step hash =>
    "Transaction " ++ hash.hex ++ " for step " ++ toString step ++ " reverted"
  | .stepFailed step completed reason =>
    "Step " ++ toString step ++ " failed after " ++ toString completed ++ " completed steps: " ++
      reason
  | .approvalFailed token spender reason =>
    "Approval of " ++ token.checksum ++ " for " ++ spender.checksum ++ " failed: " ++ reason
  | .batchReverted hash => "Batch transaction " ++ hash.hex ++ " reverted"
  | .emptyPlan => "Plan has no steps to submit"
  | .unencodable amount reason => "Amount " ++ amount ++ " cannot be encoded: " ++ reason

/-- Errors of talking to the chain that the transport does not report itself: the keeper's own view
of a connection that failed, or of an answer out of place. -/
inductive ChainError
  | transient (reason : String)
  | unreachable (reason : String)
  | receiptNotFound (hash : String)
  | unexpectedResponse (reason : String)
  deriving DecidableEq, Repr

def ChainError.message : ChainError → String
  | .transient reason => "Transient chain error: " ++ reason
  | .unreachable reason => "Chain unreachable: " ++ reason
  | .receiptNotFound hash => "Receipt for " ++ hash ++ " not found"
  | .unexpectedResponse reason => "Unexpected chain response: " ++ reason

/-- Errors that a request to a node comes back with, as the transport tells them apart. -/
inductive RpcError
  /-- The request or its answer did not get through. -/
  | transport (reason : String)
  /-- There was no answer where one is due. -/
  | nullResponse
  /-- The node answered with an error. -/
  | response (code : Int) (reason : String)
  /-- The answer does not have the form that the request calls for, so that asking again would not
  help. -/
  | malformed (reason : String)
  | localUsage (reason : String)
  | unsupported (feature : String)
  deriving DecidableEq, Repr

def RpcError.message : RpcError → String
  | .transport reason => reason
  | .nullResponse => "server returned a null response when a non-null response was expected"
  | .response code reason =>
    "server returned an error response: error code " ++ toString code ++ ": " ++ reason
  | .malformed reason => "deserialization error: " ++ reason
  | .localUsage reason => "local usage error: " ++ reason
  | .unsupported feature => "unsupported feature: " ++ feature

/-- The codes with which a node asks its caller to slow down: too many requests, by the node's own
numbering and by that of the transport. -/
def RpcError.throttlingCodes : List Int := [-32005, 429]

/-- Whether the same request may succeed later: the request was lost, the answer was empty, or the
node asked for patience. -/
def RpcError.isTransient : RpcError → Bool
  | .transport _ => true
  | .nullResponse => true
  | .response code _ => throttlingCodes.contains code
  | .malformed _ | .localUsage _ | .unsupported _ => false

/-- Errors of reading a contract: the call did not come back, or what it returned cannot be
decoded. -/
inductive ContractError
  | rpc (error : RpcError)
  | undecodable (reason : String)
  deriving DecidableEq, Repr

def ContractError.message : ContractError → String
  | .rpc error => error.message
  | .undecodable reason => reason

/-- Any failure, under the domain that it comes from; what the keeper does next depends on the
domain and on `Failure.isTransient`. -/
inductive Failure
  | chain (error : ChainError)
  | settings (error : SettingsError)
  | submission (error : SubmissionError)
  | graph (error : GraphError)
  | market (error : MarketError)
  | numeric (error : NumericError)
  | path (error : PathError)
  | conversion (error : ConversionError)
  | contract (error : ContractError)
  | rpc (error : RpcError)
  | signer (reason : String)
  | other (reason : String)
  deriving DecidableEq, Repr

namespace Failure

/-- The wording of a failure: its domain, then its cause. -/
def message : Failure → String
  | .chain error => "Chain error: " ++ error.message
  | .settings error => "Configuration error: " ++ error.message
  | .submission error => "Execution failed: " ++ error.message
  | .graph error => "Graph operation failed: " ++ error.message
  | .market error => "Market snapshot failed: " ++ error.message
  | .numeric error => "Numeric error: " ++ error.message
  | .path error => "Path operation failed: " ++ error.message
  | .conversion error => "Utility error: " ++ error.message
  | .contract error => "Contract error: " ++ error.message
  | .rpc error => "RPC error: " ++ error.message
  | .signer reason => "Local signer error: " ++ reason
  | .other reason => "Generic error: " ++ reason

/-- Whether trying again may succeed: timeouts, transport failures and receipts still missing.
Failures of any other domain would come back unchanged. -/
def isTransient : Failure → Bool
  | .chain (.transient _) | .chain (.receiptNotFound _) => true
  | .rpc error => error.isTransient
  | .contract (.rpc error) => error.isTransient
  | _ => false

/-- Whether the price feed could not be trusted: the one failure of the market that is over with the
next block. -/
def isStaleFeed : Failure → Bool
  | .market .staleFeed => true
  | _ => false

/-- The exit code of a start-up that the failure ends: 2 for an argument, 3 for a chain out of
reach, 4 for a base asset that is no vault token, and 1 for everything else. -/
def exitCode : Failure → Nat
  | .settings _ | .numeric (.invalidDecimal ..) | .conversion (.badAddress ..) | .signer _ => 2
  | .chain (.unreachable _) | .rpc _ => 3
  | .market (.unknownBaseAsset _) => 4
  | _ => 1

end Failure

end Arbitrage
