import Rollout.Backend
import Rollout.Json.Printer
import Rollout.Json.Reader
import Rollout.Process

/-!
Contract: a backend that drives a live chain through the command `seid`.

Owns:
- connecting: importing the signing key into a keyring and reading its address;
- the command line of every call;
- reading code ids, addresses and responses from what the command prints.

Does not own: starting programs, and making or removing the keyring's directory.
-/

namespace Rollout

/-- Where and how to reach a chain. -/
structure SeidSettings where
  binary : String
  node : String
  chainId : String
  gasPrices : String
  /-- The directory of the keyring. -/
  keyring : String
  deriving DecidableEq, Repr

/-- A connection whose key is imported. -/
structure Seid where
  settings : SeidSettings
  /-- The address that signs. -/
  signer : String
  deriving DecidableEq, Repr

namespace Seid

def keyName : String :=
  "cdp-deployer"

def keyringArguments (settings : SeidSettings) : List String :=
  ["--keyring-backend", "test", "--keyring-dir", settings.keyring]

/-! ## Connecting -/

def importCommand
    (settings : SeidSettings)
    (mnemonic : String) :
    Launch :=
  ⟨settings.binary,
    ["keys", "add", keyName, "--recover"] ++ keyringArguments settings,
    some (Text.trim mnemonic ++ "\n")⟩

def showCommand (settings : SeidSettings) : Launch :=
  ⟨settings.binary, ["keys", "show", keyName, "-a"] ++ keyringArguments settings, none⟩

/-- The address that the second command shows, or why there is none. -/
def signerOf (output : ProcessOutput) : Except String String :=
  let signer := Text.trim (Text.decodeUtf8Leniently output.stdout)
  if output.succeeded && !signer.isEmpty then
    .ok signer
  else
    .error ("could not read deployer address: " ++ output.complaint)

/-- Import the key of a mnemonic and read its address. -/
def connect
    (settings : SeidSettings)
    (mnemonic : String) :
    Shell (Except String Seid) :=
  (importCommand settings mnemonic).start.bind fun
  | .error fault => .done (.error fault.message)
  | .ok imported =>
      if imported.succeeded then
        (showCommand settings).start.bind fun
        | .error fault => .done (.error fault.message)
        | .ok shown =>
            match signerOf shown with
            | .ok signer => .done (.ok ⟨settings, signer⟩)
            | .error detail => .done (.error detail)
      else
        .done (.error ("could not import deployer key: " ++ imported.complaint))

/-! ## Reading replies -/

/-- The JSON text that a command printed. -/
def jsonOf : Except LaunchFault ProcessOutput → Except BackendFault Json
  | .error fault => .error (.command fault.message)
  | .ok output =>
      if output.succeeded then
        match Json.ofBytes? output.stdout with
        | some response => .ok response
        | none => .error .unreadable
      else
        .error (.command output.complaint)

/-- The response of a transaction, which must not report a failure: a `code`
that is a positive whole number of 64 bits. -/
def acceptedResponse (response : Json) : Except BackendFault Json :=
  match (response.member? "code").bind Json.unsigned? with
  | none => .ok response
  | some code =>
      if code = 0 then
        .ok response
      else
        .error (.response
          ("tx failed with code " ++ toString code.toNat ++ ": " ++
            ((response.member? "raw_log").bind Json.text?).getD ""))

/-- The items of a member that is an array; none otherwise. -/
def itemsOf
    (name : String)
    (value : Json) :
    List Json :=
  ((value.member? name).bind Json.items?).getD []

/-- The events of a response: those of every log in order, then those of the
response itself. -/
def events (response : Json) : List Json :=
  (itemsOf "logs" response).flatMap (itemsOf "events") ++ itemsOf "events" response

def hasText
    (name text : String)
    (value : Json) :
    Bool :=
  (value.member? name).bind Json.text? == some text

/-- The attributes of the events of a type. -/
def attributes
    (event : String)
    (response : Json) :
    List Json :=
  ((events response).filter (hasText "type" event)).flatMap (itemsOf "attributes")

/-- The text of the first attribute of a key among the events of a type. -/
def eventAttribute?
    (response : Json)
    (event key : String) :
    Option String :=
  match (attributes event response).find? (hasText "key" key) with
  | none => none
  | some found => (found.member? "value").bind Json.text?

/-- The code id that a response to a registration reports. -/
def storedCode? (response : Json) : Option CodeId :=
  match eventAttribute? response "store_code" "code_id" with
  | none => none
  | some text =>
      match Text.readUnsigned UInt64.size text with
      | .ok codeId => some (UInt64.ofNat codeId)
      | .error _ => none

/-- The address that a response to an instantiation reports. -/
def newAddress? (response : Json) : Option String :=
  eventAttribute? response "instantiate" "_contract_address"

/-- The answer in the response to a query: its member `data`, or all of it. -/
def queryAnswer (response : Json) : Json :=
  (response.member? "data").getD response

/-! ## Calls -/

/-- The arguments that every transaction ends with. -/
def transactionArguments (seid : Seid) : List String :=
  ["--from", keyName, "--chain-id", seid.settings.chainId, "--node", seid.settings.node,
    "--gas", "auto", "--gas-adjustment", "1.3", "--gas-prices", seid.settings.gasPrices,
    "--broadcast-mode", "block", "--output", "json", "-y"] ++
    keyringArguments seid.settings

def amountArguments : List Coin → List String
  | [] => []
  | funds => ["--amount", Coin.listText funds]

def codeIdArgument (codeId : CodeId) : String :=
  toString codeId.toNat

def callArguments (seid : Seid) : Call → List String
  | .registerArtifact artifact =>
      ["tx", "wasm", "store", artifact] ++ seid.transactionArguments
  | .instantiate codeId payload funds label =>
      ["tx", "wasm", "instantiate", codeIdArgument codeId, payload.compact,
        "--label", label, "--admin", seid.signer] ++
        amountArguments funds ++ seid.transactionArguments
  | .execute address payload funds =>
      ["tx", "wasm", "execute", address, payload.compact] ++
        amountArguments funds ++ seid.transactionArguments
  | .query address payload =>
      ["query", "wasm", "contract-state", "smart", address, payload.compact,
        "--node", seid.settings.node, "--output", "json"]
  | .migrate address codeId payload =>
      ["tx", "wasm", "migrate", address, codeIdArgument codeId, payload.compact] ++
        seid.transactionArguments

/-- The answer to a call from what its command left. -/
def answerOf
    (reply : Except LaunchFault ProcessOutput) :
    (call : Call) → call.Answer
  | .registerArtifact artifact =>
      match (jsonOf reply).bind acceptedResponse with
      | .error fault => .error fault
      | .ok response =>
          match storedCode? response with
          | some codeId => .ok codeId
          | none => .error (.response ("no code id in store response for " ++ artifact))
  | .instantiate _ _ _ label =>
      match (jsonOf reply).bind acceptedResponse with
      | .error fault => .error fault
      | .ok response =>
          match newAddress? response with
          | some address => .ok address
          | none =>
              .error (.response ("no contract address in instantiate response for " ++ label))
  | .execute _ _ _ => (jsonOf reply).bind acceptedResponse
  | .query _ _ => (jsonOf reply).map queryAnswer
  | .migrate _ _ _ => (jsonOf reply).bind acceptedResponse

/-- Answer a call by running its command. -/
def respond
    (seid : Seid)
    (call : Call) :
    Shell call.Answer :=
  (Launch.start ⟨seid.settings.binary, seid.callArguments call, none⟩).bind fun reply =>
    .done (answerOf reply call)

end Seid

end Rollout
