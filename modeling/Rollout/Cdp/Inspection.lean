import Rollout.Cdp.Names
import Rollout.Inquiry

/-!
Contract: the named lists of inquiries that can end a deployment of the CDP
contracts.

Owns: the inspections, their names, and the inquiries of each.

Does not own: the selection of inspections for a run.
-/

namespace Rollout.Cdp

/-- A named list of inquiries. -/
inductive Inspection where
  /-- Collaterals, prices and the deployer's loan. -/
  | collateralInfo
  /-- The configuration of every core contract. -/
  | contractConfigs
  /-- Prices and the configuration of the feeds. -/
  | oraclePrices
  /-- The deployer's loan and the state of the pool. -/
  | loanState
  deriving DecidableEq, Repr

namespace Inspection

def all : List Inspection :=
  [.collateralInfo, .contractConfigs, .oraclePrices, .loanState]

def text : Inspection → String
  | .collateralInfo => "collateral-info"
  | .contractConfigs => "contract-configs"
  | .oraclePrices => "oracle-prices"
  | .loanState => "loan-state"

def ofText? (name : String) : Option Inspection :=
  all.find? fun inspection => inspection.text == name

/-- The inspection of a name in which ASCII letters may have either case. -/
def ofAnyCase? (name : String) : Option Inspection :=
  ofText? (String.ofList (name.toList.map Char.toLower))

end Inspection

/-! ## Inquiries -/

private def query
    (name : String)
    (members : List (String × String)) :
    Json :=
  .ofMembers
    [(name, .ofMembers (members.map fun (name, text) => (name, .string text)))]

def tokens : List String :=
  [var bseiTokenVar, var stseiTokenVar]

def collateralInquiry (token : String) : Inquiry :=
  ⟨centralControl, query "collateral_elem" [("collateral", token)]⟩

def priceInquiry (token : String) : Inquiry :=
  ⟨oraclePyth, query "query_price" [("asset", token)]⟩

def feederInquiry (token : String) : Inquiry :=
  ⟨oraclePyth, query "query_pyth_feeder_config" [("asset", token)]⟩

def loanInquiry : Inquiry :=
  ⟨centralControl, query "loan_info" [("minter", var deployerVar)]⟩

def minterCollateralInquiry : Inquiry :=
  ⟨centralControl, query "minter_collateral" [("minter", var deployerVar)]⟩

def configInquiry (contract : String) : Inquiry :=
  ⟨contract, query "config" []⟩

def Inspection.inquiries : Inspection → List Inquiry
  | .collateralInfo =>
      tokens.map collateralInquiry ++ tokens.map priceInquiry ++
        [loanInquiry,
          minterCollateralInquiry,
          ⟨centralControl,
            query "collateral_available"
              [("minter", var deployerVar), ("collateral_contract", var bseiTokenVar)]⟩,
          configInquiry centralControl,
          ⟨var bseiTokenVar, query "balance" [("address", var deployerVar)]⟩]
  | .contractConfigs =>
      [stablePool, centralControl, custodyBsei, custodyStsei, liquidationQueue].map
          configInquiry ++
        [⟨oraclePyth, query "query_config" []⟩]
  | .oraclePrices =>
      tokens.map priceInquiry ++ tokens.map feederInquiry ++
        [⟨mockOracle, query "price_feed" [("id", bseiFeed)]⟩]
  | .loanState =>
      [loanInquiry, minterCollateralInquiry, ⟨stablePool, query "state" []⟩]

end Rollout.Cdp
