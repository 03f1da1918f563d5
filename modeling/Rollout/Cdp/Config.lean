import Rollout.Cdp.Names
import Rollout.Environment
import Rollout.Template.Resolution

/-!
Contract: the configuration without which no deployment starts.

Owns: the values, reading them from the environment, and the variables that
templates can refer to.

Does not own: the names of the environment variables.
-/

namespace Rollout.Cdp

structure Config where
  rpcEndpoint : String
  chainId : String
  mnemonic : String
  stableDenom : String
  bseiToken : String
  stseiToken : String
  deriving DecidableEq, Repr

namespace Config

/-- The configuration of values in the order of the required names. -/
def ofValues? : List String → Option Config
  | [rpcEndpoint, chainId, mnemonic, stableDenom, bseiToken, stseiToken] =>
      some ⟨rpcEndpoint, chainId, mnemonic, stableDenom, bseiToken, stseiToken⟩
  | _ => none

/-- The configuration that the environment gives, or all the names that it lacks. -/
def ofEnvironment (environment : Environment) : Except MissingVariables Config :=
  match environment.require requiredNames with
  | .error missing => .error missing
  | .ok values =>
      match ofValues? values with
      | some config => .ok config
      | none => .error ⟨[]⟩

/-- The variables of a run whose transactions are signed by `deployer`. -/
def bindings
    (config : Config)
    (deployer : String) :
    Variables :=
  [(deployerVar, deployer), (stableDenomVar, config.stableDenom),
    (bseiTokenVar, config.bseiToken), (stseiTokenVar, config.stseiToken)]

end Config

end Rollout.Cdp
