import Rollout.Placeholder
import Rollout.Text.UpperCase

/-!
Contract: the names in a deployment of the CDP contracts.

Owns:
- the contracts, their artifacts, and the variables of a run;
- the environment variables that a run demands or reads seeds from;
- denominations and price feeds;
- references to addresses and variables, and the paths of artifacts.

Does not own: what the contracts are sent.
-/

namespace Rollout.Cdp

/-! ## Contracts -/

def centralControl : String := "central_control"

/-- The stable pool contract, which owns the denomination of the stable coin. -/
def stablePool : String := "stable_pool"

def custodyBsei : String := "custody_bsei"

def liquidationQueue : String := "liquidation_queue"

/-- The custody contract for stSEI, which runs the code of the other custody. -/
def custodyStsei : String := "custody_stsei"

def mockOracle : String := "mock_oracle"

def oraclePyth : String := "oracle_pyth"

/-- The contract that stands in for a swap pair. -/
def mockSwapPair : String := "mock_swap_pair"

/-! ## Artifacts -/

def centralControlArtifact : String := "cdp_central_control.wasm"

def stablePoolArtifact : String := "cdp_stable_pool.wasm"

def custodyArtifact : String := "cdp_custody.wasm"

def liquidationQueueArtifact : String := "cdp_liquidation_queue.wasm"

def mockOracleArtifact : String := "mock_oracle.wasm"

def oraclePythArtifact : String := "moneymarket_oracle_pyth.wasm"

/-- The artifact of the stand-in for a swap pair. -/
def mockSwapPairArtifact : String := "mock_swap_pair.wasm"

def isAbsolute (path : String) : Bool :=
  match path.toList with
  | '/' :: _ => true
  | _ => false

/-- The path of a file in a directory. An absolute path stays as it is; nothing is
simplified. -/
def pathIn
    (directory file : String) :
    String :=
  if isAbsolute file then
    file
  else
    match directory.toList.getLast? with
    | none => file
    | some '/' => directory ++ file
    | some _ => directory ++ "/" ++ file

/-! ## Variables -/

def deployerVar : String := "deployer"

def stableDenomVar : String := "stable_denom"

def bseiTokenVar : String := "bsei_token"

def stseiTokenVar : String := "stsei_token"

/-- A slot for the address of a resource. -/
def addressOf (resource : String) : String :=
  (Placeholder.address resource).text

/-- A slot for a variable. -/
def var (key : String) : String :=
  (Placeholder.var key).text

/-! ## Environment -/

def rpcEndpointName : String := "RPC_ENDPOINT"

def chainIdName : String := "CHAIN_ID"

def mnemonicName : String := "MNEMONIC"

def stableDenomName : String := "stable_coin_denom"

def bseiTokenName : String := "BSEI_TOKEN_ADDRESS"

def stseiTokenName : String := "STSEI_TOKEN_ADDRESS"

/-- The environment variables without which no deployment starts. -/
def requiredNames : List String :=
  [rpcEndpointName, chainIdName, mnemonicName, stableDenomName, bseiTokenName,
    stseiTokenName]

/-- The environment variable about a resource: its name in upper case, and a
suffix. -/
def seedName
    (resource suffix : String) :
    String :=
  Text.upperCase resource ++ suffix

def addressSeedName (resource : String) : String :=
  seedName resource "_ADDRESS"

def codeIdSeedName (resource : String) : String :=
  seedName resource "_CODE_ID"

/-! ## Chain -/

def nativeDenom : String := "usei"

def usdtDenom : String :=
  "factory/sei1h3ukufh4lhacftdf6kyxzum4p86rcnel35v4jk/usdt"

/-- The denomination that the stable pool mints, without its owner. -/
def stableSubDenom : String := "kUSD"

def bseiFeed : String :=
  "5bc91f13e412c07599167bae86f07543f076a638962b8d6017ec19dab4a82814"

def stseiFeed : String :=
  "ff61491a931112ddf1bd8147cd1b641375f79f5825126d665480874634fd0ace"

end Rollout.Cdp
