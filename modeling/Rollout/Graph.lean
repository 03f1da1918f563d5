import Rollout.Descriptor
import Rollout.Graph.Sorting

/-!
Contract: resources in an order in which they can be provisioned.

Owns:
- the checks of a list of descriptors: distinct names, well-formed templates,
  declared dependencies, no cycle;
- the order: among the resources whose dependencies are placed, the one declared
  first comes next;
- the faults of a list and their wording.

Does not own: the sorting of numbered items.
-/

namespace Rollout

/-- Why descriptors do not form a graph. -/
inductive GraphFault where
  | duplicate (resource : String)
  | dangling (resource reference : String)
  | invalidTemplate (resource : String) (fault : TemplateFault)
  /-- The resources that cannot be ordered, as declared. -/
  | cyclic (resources : List String)
  deriving DecidableEq, Repr

def GraphFault.message : GraphFault → String
  | .duplicate resource => "resource `" ++ resource ++ "` declared twice"
  | .dangling resource reference =>
      "resource `" ++ resource ++ "` references undeclared resource `" ++ reference ++ "`"
  | .invalidTemplate resource fault =>
      "invalid template for `" ++ resource ++ "`: " ++ fault.detail
  | .cyclic resources =>
      "cyclic dependency between: " ++ String.intercalate ", " resources

/-- Resources in an order in which each comes after its dependencies. -/
structure Graph where
  resources : List Descriptor
  deriving DecidableEq, Repr

namespace Graph

def empty : Graph :=
  ⟨[]⟩

/-! ## Checks -/

/-- The first name that was met before, given the names met already. -/
def firstRepeated? : List String → List String → Option String
  | _, [] => none
  | met, name :: rest =>
      if name ∈ met then some name else firstRepeated? (name :: met) rest

/-- The places of the dependencies of a resource among the declared names, up to
the first that is not declared. -/
def placesOf
    (names : List String)
    (resource : String) :
    List String → Except GraphFault (List Nat)
  | [] => .ok []
  | dependency :: rest =>
      match names.idxOf? dependency with
      | none => .error (.dangling resource dependency)
      | some place =>
          match placesOf names resource rest with
          | .ok places => .ok (place :: places)
          | .error fault => .error fault

/-- The places of the resources that a descriptor needs. -/
def needsOf
    (names : List String)
    (descriptor : Descriptor) :
    Except GraphFault (List Nat) :=
  match descriptor.dependencies with
  | .error fault => .error (.invalidTemplate descriptor.name fault)
  | .ok dependencies => placesOf names descriptor.name dependencies

/-- The needs of descriptors, in order, up to the first one with a fault. -/
def allNeeds
    (names : List String) :
    List Descriptor → Except GraphFault (List (List Nat))
  | [] => .ok []
  | descriptor :: rest =>
      match needsOf names descriptor with
      | .error fault => .error fault
      | .ok needs =>
          match allNeeds names rest with
          | .ok others => .ok (needs :: others)
          | .error fault => .error fault

/-! ## The order -/

/-- The descriptors whose place is in a list, in the order of the list. -/
def atPlaces
    (descriptors : List Descriptor)
    (places : List Nat) :
    List Descriptor :=
  places.filterMap fun place => descriptors[place]?

/-- The names of the descriptors that a sorting left waiting, as declared. -/
def stuckNames
    (descriptors : List Descriptor)
    (sorting : Sorting) :
    List String :=
  descriptors.zipIdx.filterMap fun (descriptor, place) =>
    if sorting.isWaiting place then some descriptor.name else none

/-- Order descriptors by their dependencies. -/
def build (descriptors : List Descriptor) : Except GraphFault Graph :=
  let names := descriptors.map Descriptor.name
  match firstRepeated? [] names with
  | some name => .error (.duplicate name)
  | none =>
      match allNeeds names descriptors with
      | .error fault => .error fault
      | .ok needs =>
          let sorting := Sorting.ofNeeds needs
          if sorting.placed.length = descriptors.length then
            .ok ⟨atPlaces descriptors sorting.placed⟩
          else
            .error (.cyclic (stuckNames descriptors sorting))

/-! ## Access -/

def names (graph : Graph) : List String :=
  graph.resources.map Descriptor.name

def find?
    (graph : Graph)
    (name : String) :
    Option Descriptor :=
  graph.resources.find? fun descriptor => descriptor.name == name

def size (graph : Graph) : Nat :=
  graph.resources.length

def isEmpty (graph : Graph) : Bool :=
  graph.resources.isEmpty

end Graph

end Rollout
