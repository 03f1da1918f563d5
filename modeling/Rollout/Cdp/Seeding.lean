import Rollout.Cdp.Names
import Rollout.Environment
import Rollout.Seeds
import Rollout.Text.Blank
import Rollout.Text.Unsigned

/-!
Contract: seeds from environment variables.

Owns:
- the seed that the environment gives for a resource;
- laying the seeds of several resources over known ones;
- the fault of a variable that is no code id.

Does not own: the names of the variables, and which resources are asked for.
-/

namespace Rollout.Cdp

/-- A variable that should hold a code id and does not. -/
structure SeedFault where
  variableName : String
  fault : Text.UnsignedFault
  deriving DecidableEq, Repr

def SeedFault.message (fault : SeedFault) : String :=
  fault.variableName ++ ": " ++ fault.fault.message

/-- A code id as text, with blank characters around it. -/
def codeIdOfText (text : String) : Except Text.UnsignedFault CodeId :=
  match Text.readUnsigned UInt64.size (Text.trim text) with
  | .ok codeId => .ok (UInt64.ofNat codeId)
  | .error fault => .error fault

def environmentCodeId
    (environment : Environment)
    (resource : String) :
    Except SeedFault (Option CodeId) :=
  match environment.get? (codeIdSeedName resource) with
  | none => .ok none
  | some text =>
      match codeIdOfText text with
      | .ok codeId => .ok (some codeId)
      | .error fault => .error ⟨codeIdSeedName resource, fault⟩

def environmentSeed
    (environment : Environment)
    (resource : String) :
    Except SeedFault Seed :=
  match environmentCodeId environment resource with
  | .error fault => .error fault
  | .ok codeId => .ok ⟨environment.get? (addressSeedName resource), codeId⟩

/-- Lay what the environment gives for a resource over known seeds. Seeds that do not name the
resource only do so afterwards if there is an address or a code id. -/
def overlayGiven
    (seeds : Seeds)
    (resource : String)
    (given : Seed) :
    Seeds :=
  if given.address.isSome || given.codeId.isSome then
    seeds.overlay resource given
  else
    seeds

/-- Lay the seeds that the environment gives for resources over known ones, in
order. A fault stops this and leaves the seeds as they are by then. -/
def overlayEnvironment
    (environment : Environment) :
    List String → Seeds → Except (SeedFault × Seeds) Seeds
  | [], seeds => .ok seeds
  | resource :: rest, seeds =>
      match environmentSeed environment resource with
      | .error fault => .error (fault, seeds)
      | .ok seed => overlayEnvironment environment rest (overlayGiven seeds resource seed)

end Rollout.Cdp
