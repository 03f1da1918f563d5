import Rollout.Cdp.Inspection
import Rollout.Cdp.Scenario

/-!
Contract: the choices of a run.

Owns: the choices and what holds when nothing is chosen.

Does not own: how choices are made.
-/

namespace Rollout.Cdp

structure Options where
  /-- Where the deployments file is. -/
  deploymentsPath : String
  /-- The directory of the artifacts. -/
  artifactsDir : String
  scenarios : List Scenario
  inspections : List Inspection
  /-- Whether the run is a rehearsal on a simulated chain. -/
  dryRun : Bool
  /-- The command that talks to the chain. -/
  seidBinary : String
  /-- The gas prices of every transaction. -/
  gasPrices : String
  deriving DecidableEq, Repr

def Options.standard : Options :=
  ⟨"deployments.json", "artifacts", [], [.collateralInfo], false, "seid", "0.1usei"⟩

end Rollout.Cdp
