import Rollout.Cdp.Names
import Rollout.Graph

/-!
Contract: the CDP contracts and the messages that instantiate them.

Owns: the descriptors of the contracts in the order of their declaration, and
their graph.

Does not own: what is done with the contracts after that.
-/

namespace Rollout.Cdp

/-- The coins that pay for the denomination of the stable pool. -/
def stablePoolFunds : String := "10000000usei"

private def text
    (name value : String) :
    String × Json :=
  (name, .string value)

/-- The central control contract. The deployer stands in every peer's place until
the configurations are updated. -/
def centralControlDescriptor (artifactsDir : String) : Descriptor :=
  .ofUpload centralControl (pathIn artifactsDir centralControlArtifact)
    "cdp central control"
    (.ofMembers
      [text "owner_addr" (var deployerVar),
        text "oracle_contract" (var deployerVar),
        text "pool_contract" (var deployerVar),
        text "custody_contract" (var deployerVar),
        text "liquidation_contract" (var deployerVar),
        text "stable_denom" "USDT",
        ("epoch_period", .ofNat 1681),
        text "redeem_fee" "0.005"])

def stablePoolDescriptor (artifactsDir : String) : Descriptor :=
  (Descriptor.ofUpload stablePool (pathIn artifactsDir stablePoolArtifact)
    "cdp stable pool contract"
    (.ofMembers
      [text "owner_addr" (var deployerVar),
        text "sub_demon" stableSubDenom,
        text "control_contract" (addressOf centralControl),
        text "min_redeem_value" "1000000"])).withFunds stablePoolFunds

def custodyBseiDescriptor (artifactsDir : String) : Descriptor :=
  .ofUpload custodyBsei (pathIn artifactsDir custodyArtifact) "cdp custody"
    (.ofMembers
      [text "owner_addr" (var deployerVar),
        text "control_contract" (addressOf centralControl),
        text "pool_contract" (addressOf stablePool),
        text "collateral_contract" (var deployerVar),
        text "liquidation_contract" (var deployerVar)])

def liquidationQueueDescriptor (artifactsDir : String) : Descriptor :=
  .ofUpload liquidationQueue (pathIn artifactsDir liquidationQueueArtifact)
    "cdp liquidate queue contract"
    (.ofMembers
      [text "owner" (var deployerVar),
        text "oracle_contract" (var deployerVar),
        text "stable_denom" (var stableDenomVar),
        text "safe_ratio" "0.8",
        text "bid_fee" "0.01",
        text "liquidator_fee" "0.01",
        text "liquidation_threshold" "500",
        ("price_timeframe", .ofNat 86400),
        ("waiting_period", .ofNat 600),
        text "control_contract" (addressOf centralControl)])

def custodyStseiDescriptor : Descriptor :=
  .ofReuse custodyStsei custodyBsei "cdp custody stSEI"
    (.ofMembers
      [text "owner_addr" (var deployerVar),
        text "control_contract" (addressOf centralControl),
        text "pool_contract" (addressOf stablePool),
        text "collateral_contract" (var stseiTokenVar),
        text "liquidation_contract" (addressOf liquidationQueue)])

/-- The contract that stands in for the price feed. -/
def mockOracleDescriptor (artifactsDir : String) : Descriptor :=
  .ofUpload mockOracle (pathIn artifactsDir mockOracleArtifact)
    "cdp mock oracle contract" (.ofMembers [])

/-- The adapter to the price feed. -/
def oraclePythDescriptor (artifactsDir : String) : Descriptor :=
  .ofUpload oraclePyth (pathIn artifactsDir oraclePythArtifact) "oracle pyth contract"
    (.ofMembers
      [text "owner" (var deployerVar),
        text "pyth_contract" (addressOf mockOracle)])

/-- A native token in the form of the swap pair. -/
private def nativeToken (denom : String) : Json :=
  .ofMembers [("native_token", .ofMembers [text "denom" denom])]

/-- The contract that stands in for a swap pair. -/
def mockSwapPairDescriptor (artifactsDir : String) : Descriptor :=
  .ofUpload mockSwapPair (pathIn artifactsDir mockSwapPairArtifact)
    "cdp mock swap extent contract"
    (.ofMembers
      [("asset_infos", .array [nativeToken nativeDenom, nativeToken usdtDenom]),
        text "swap_0_to_1_price" "1890000000"])

/-- The CDP contracts in the order of their declaration. -/
def descriptors (artifactsDir : String) : List Descriptor :=
  [centralControlDescriptor artifactsDir,
    stablePoolDescriptor artifactsDir,
    custodyBseiDescriptor artifactsDir,
    liquidationQueueDescriptor artifactsDir,
    custodyStseiDescriptor,
    mockOracleDescriptor artifactsDir,
    oraclePythDescriptor artifactsDir,
    mockSwapPairDescriptor artifactsDir]

def graph (artifactsDir : String) : Except GraphFault Graph :=
  Graph.build (descriptors artifactsDir)

end Rollout.Cdp
