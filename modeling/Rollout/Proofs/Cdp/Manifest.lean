import Rollout.Cdp.Manifest
import Rollout.Proofs.Graph.Validation

/-!
Contract: the graph of the CDP contracts.

Owns: that the contracts form a graph in the order of their declaration, and that each
has a label of its own.

Does not own: what the contracts are told when they are instantiated.
-/

namespace Rollout.Cdp

def manifest (artifactsDir : String) : Graph :=
  ⟨descriptors artifactsDir⟩

/-- The order of declaration is one in which every contract comes after those that it
depends on. -/
theorem graph_eq (artifactsDir : String) : graph artifactsDir = .ok (manifest artifactsDir) := by
  rfl

theorem manifest_valid (artifactsDir : String) : Graph.Valid (manifest artifactsDir) :=
  Graph.valid_of_build (graph_eq artifactsDir)

def labels : List String :=
  ["cdp central control", "cdp stable pool contract", "cdp custody",
    "cdp liquidate queue contract", "cdp custody stSEI", "cdp mock oracle contract",
    "oracle pyth contract", "cdp mock swap extent contract"]

private theorem descriptors_labels (artifactsDir : String) :
    (descriptors artifactsDir).map Descriptor.label = labels :=
  rfl

theorem labels_nodup (artifactsDir : String) :
    ((descriptors artifactsDir).map Descriptor.label).Nodup := by
  rw [descriptors_labels]
  decide

end Rollout.Cdp
