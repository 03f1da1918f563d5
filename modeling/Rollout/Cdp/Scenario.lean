import Rollout.Cdp.Names
import Rollout.Configuration
import Rollout.Json.Printer
import Rollout.Text.Base64
import Rollout.Text.Utf8

/-!
Contract: the named lists of changes that can follow the provisioning of the CDP
contracts.

Owns: the scenarios, their names, and the changes of each.

Does not own: the selection of scenarios for a run.
-/

namespace Rollout.Cdp

/-- A named list of changes. -/
inductive Scenario where
  /-- Admit both tokens as collateral at the central control. -/
  | whitelistCollateral
  /-- Point the price adapter at the stand-in feed and configure the feeds. -/
  | wireOracle
  /-- Point every contract at its peers. -/
  | updateConfigs
  /-- Admit both tokens as collateral at the liquidation queue. -/
  | liquidationWhitelist
  /-- Migrate the core contracts to fresh code. -/
  | migrate
  /-- Deposit both tokens with their custody contracts. -/
  | depositCollateral
  /-- Deposit collateral and mint stable coins against it in one transfer. -/
  | mintWithCollateral
  /-- Mint stable coins against collateral that is there. -/
  | mintStableCoin
  /-- Withdraw part of both collaterals. -/
  | withdrawCollateral
  /-- Pay stable coins back to the stable pool. -/
  | repayStableCoin
  deriving DecidableEq, Repr

namespace Scenario

def all : List Scenario :=
  [.whitelistCollateral, .wireOracle, .updateConfigs, .liquidationWhitelist, .migrate,
    .depositCollateral, .mintWithCollateral, .mintStableCoin, .withdrawCollateral,
    .repayStableCoin]

def text : Scenario → String
  | .whitelistCollateral => "whitelist-collateral"
  | .wireOracle => "wire-oracle"
  | .updateConfigs => "update-configs"
  | .liquidationWhitelist => "liquidation-whitelist"
  | .migrate => "migrate"
  | .depositCollateral => "deposit-collateral"
  | .mintWithCollateral => "mint-with-collateral"
  | .mintStableCoin => "mint-stable-coin"
  | .withdrawCollateral => "withdraw-collateral"
  | .repayStableCoin => "repay-stable-coin"

def ofText? (name : String) : Option Scenario :=
  all.find? fun scenario => scenario.text == name

/-- The scenario of a name in which ASCII letters may have either case. -/
def ofAnyCase? (name : String) : Option Scenario :=
  ofText? (String.ofList (name.toList.map Char.toLower))

end Scenario

/-! ## Collaterals -/

/-- A token that serves as collateral, and the contract that keeps it. -/
structure Collateral where
  name : String
  symbol : String
  /-- The variable that holds the address of the token. -/
  token : String
  custody : String
  /-- The amount that a deposit sends. -/
  deposit : String
  /-- The amount that is sent when stable coins are minted with it. -/
  minting : String
  /-- The amount of stable coins minted with it. -/
  minted : String
  deriving DecidableEq, Repr

def bondSei : Collateral :=
  ⟨"bond SEI", "bSEI", bseiTokenVar, custodyBsei, "100000", "10000000", "10000000000"⟩

def stakingSei : Collateral :=
  ⟨"staking SEI", "stSEI", stseiTokenVar, custodyStsei, "10000", "100000", "1000000"⟩

def collaterals : List Collateral :=
  [bondSei, stakingSei]

private def textMember
    (name value : String) :
    String × Json :=
  (name, .string value)

/-- A message: its name, and what it holds. -/
private def message
    (name : String)
    (members : List (String × Json)) :
    Json :=
  .ofMembers [(name, .ofMembers members)]

/-- Send an amount of a collateral to its custody contract, with a message for
the contract in base 64. -/
def sendToCustody
    (collateral : Collateral)
    (amount : String)
    (hook : Json) :
    Change :=
  .execute (var collateral.token)
    (message "send"
      [textMember "contract" (addressOf collateral.custody),
        textMember "amount" amount,
        textMember "msg" (Text.base64 (Text.encodeUtf8 hook.compact))])

/-! ## Changes -/

/-- Admit a collateral at the central control. -/
def whitelistCollateral (collateral : Collateral) : Change :=
  .execute centralControl
    (message "whitelist_collateral"
      [textMember "name" collateral.name,
        textMember "symbol" collateral.symbol,
        textMember "max_ltv" "0.6",
        textMember "custody_contract" (addressOf collateral.custody),
        textMember "collateral_contract" (var collateral.token)])

def configureFeed
    (token feed : String) :
    Change :=
  .execute oraclePyth
    (message "config_feed_info"
      [textMember "asset" (var token),
        textMember "price_feed_id" feed,
        textMember "price_feed_symbol" "Crypto.ETH/USD",
        ("price_feed_decimal", .ofNat 8),
        ("price_feed_age", .ofNat 720000000),
        ("check_feed_age", .bool true)])

def wireOracle : List Change :=
  [.execute oraclePyth
      (message "change_pyth_contract" [textMember "pyth_contract" (addressOf mockOracle)]),
    .execute mockOracle
      (message "update_price_feed"
        [textMember "id" bseiFeed, ("price", .ofNat 189012345678)]),
    configureFeed bseiTokenVar bseiFeed,
    configureFeed stseiTokenVar stseiFeed]

/-- Point the custody contract of a collateral at its peers. -/
def updateCustody (collateral : Collateral) : Change :=
  .execute collateral.custody
    (message "update_config"
      [textMember "control_contract" (addressOf centralControl),
        textMember "pool_contract" (addressOf stablePool),
        textMember "collateral_contract" (var collateral.token),
        textMember "liquidation_contract" (addressOf liquidationQueue)])

/-- Point every contract at its peers. -/
def updateConfigs : List Change :=
  .execute centralControl
      (message "update_config"
        [textMember "oracle_contract" (addressOf oraclePyth),
          textMember "pool_contract" (addressOf stablePool),
          textMember "custody_contract" (addressOf custodyBsei),
          textMember "liquidation_contract" (addressOf liquidationQueue),
          textMember "stable_denom" (var stableDenomVar)]) ::
    collaterals.map updateCustody ++
    [.execute liquidationQueue
      (message "update_config"
        [textMember "oracle_contract" (addressOf oraclePyth),
          textMember "stable_denom" (var stableDenomVar),
          textMember "control_contract" (addressOf centralControl)])]

/-- Admit a collateral at the liquidation queue. -/
def liquidationWhitelist (collateral : Collateral) : Change :=
  .execute liquidationQueue
    (message "whitelist_collateral"
      [textMember "collateral_token" (var collateral.token),
        textMember "bid_threshold" "200000000",
        ("max_slot", .ofNat 10),
        textMember "premium_rate_per_slot" "0.01"])

/-- The core contracts with the artifacts that they are migrated to. -/
def migrations : List (String × String) :=
  [(centralControl, centralControlArtifact),
    (custodyBsei, custodyArtifact),
    (custodyStsei, custodyArtifact),
    (stablePool, stablePoolArtifact),
    (liquidationQueue, liquidationQueueArtifact)]

/-- Deposit a collateral and mint stable coins against it. -/
def mintWithCollateral (collateral : Collateral) : Change :=
  sendToCustody collateral collateral.minting
    (message "mint_stable_coin"
      [textMember "stable_amount" collateral.minted,
        ("is_redemption_provider", .bool true)])

def withdrawCollateral (collateral : Collateral) : Change :=
  .execute centralControl
    (message "withdraw_collateral"
      [textMember "collateral_contract" (var collateral.token),
        textMember "collateral_amount" "10000"])

def Scenario.changes
    (scenario : Scenario)
    (artifactsDir : String) :
    List Change :=
  match scenario with
  | .whitelistCollateral => collaterals.map Cdp.whitelistCollateral
  | .wireOracle => Cdp.wireOracle
  | .updateConfigs => Cdp.updateConfigs
  | .liquidationWhitelist => collaterals.map Cdp.liquidationWhitelist
  | .migrate =>
      migrations.map fun (target, file) =>
        .migrate target (pathIn artifactsDir file) (.ofMembers [])
  | .depositCollateral =>
      collaterals.map fun collateral =>
        sendToCustody collateral collateral.deposit (message "deposit_collateral" [])
  | .mintWithCollateral => collaterals.map Cdp.mintWithCollateral
  | .withdrawCollateral => collaterals.map Cdp.withdrawCollateral
  | .mintStableCoin =>
      [.execute centralControl
        (message "mint_stable_coin"
          [textMember "minter" (var deployerVar),
            textMember "stable_amount" "180000000"])]
  | .repayStableCoin =>
      [(Change.execute stablePool (message "repay_stable_coin" [])).withFunds
        ("1000000" ++ var stableDenomVar)]

end Rollout.Cdp
