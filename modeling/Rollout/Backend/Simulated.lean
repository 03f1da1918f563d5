import Rollout.Backend

/-!
Contract: a chain in memory, for rehearsals.

Owns:
- code ids that count up from one;
- contract addresses made from the number of the contract;
- answers that repeat the request.

Does not own: any effect of messages. Executing and querying change nothing and
need no contract; a migration needs one.
-/

namespace Rollout

structure SimulatedChain where
  /-- The registered artifacts; the first has code id one. -/
  artifacts : List String
  /-- The contracts with the code that each runs. -/
  contracts : List (String × CodeId)
  deriving DecidableEq, Repr

namespace SimulatedChain

def empty : SimulatedChain :=
  ⟨[], []⟩

/-- The address that signs on a simulated chain. -/
def signer : String :=
  "sei1simdeployer"

/-- A number with at least four decimal digits. -/
def paddedDigits (number : Nat) : List Char :=
  let digits := Nat.toDigits 10 number
  List.replicate (4 - digits.length) '0' ++ digits

/-- The address of the contract of a number, counted from one. -/
def addressOf (number : Nat) : String :=
  "sei1sim" ++ String.ofList (paddedDigits number)

/-- Let a contract run other code; a new address is added. -/
def setContract
    (address : String)
    (codeId : CodeId) :
    List (String × CodeId) → List (String × CodeId)
  | [] => [(address, codeId)]
  | (first, held) :: rest =>
      if first = address then
        (first, codeId) :: rest
      else
        (first, held) :: setContract address codeId rest

def respond : Backend SimulatedChain
  | .registerArtifact artifact, chain =>
      let artifacts := chain.artifacts ++ [artifact]
      (.ok (UInt64.ofNat artifacts.length), { chain with artifacts := artifacts })
  | .instantiate codeId _ _ _, chain =>
      let address := addressOf (chain.contracts.length + 1)
      (.ok address,
        { chain with contracts := setContract address codeId chain.contracts })
  | .execute address payload funds, chain =>
      (.ok (Json.ofMembers
        [("simulated", .string "execute"), ("contract", .string address),
          ("msg", payload), ("funds", .string (Coin.listText funds))]),
        chain)
  | .query address payload, chain =>
      (.ok (Json.ofMembers
        [("simulated", .string "query"), ("contract", .string address),
          ("msg", payload)]),
        chain)
  | .migrate address codeId payload, chain =>
      match chain.contracts.lookup address with
      | none => (.error (.response ("no contract at " ++ address ++ " to migrate")), chain)
      | some _ =>
          (.ok (Json.ofMembers
            [("simulated", .string "migrate"), ("contract", .string address),
              ("code_id", Json.ofNat codeId.toNat), ("msg", payload)]),
            { chain with contracts := setContract address codeId chain.contracts })

end SimulatedChain

end Rollout
