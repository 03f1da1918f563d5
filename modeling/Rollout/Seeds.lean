import Rollout.Registry
import Rollout.Text.Blank

/-!
Contract: what is known about resources before a run.

Owns:
- seeds by name, each with an address and a code id that may be absent;
- the overlay of one seed over another, field by field;
- seeds from the registry of an earlier run.

Does not own: where seeds are read from.
-/

namespace Rollout

/-- What is known about one resource. -/
structure Seed where
  address : Option String
  codeId : Option CodeId
  deriving DecidableEq, Repr

namespace Seed

/-- The seed about which nothing is known. -/
def unknown : Seed :=
  ⟨none, none⟩

/-- A seed whose blank address counts as none. -/
def normal (seed : Seed) : Seed :=
  ⟨seed.address.filter fun address => !Text.blank address, seed.codeId⟩

/-- The fields that `upper` has, and those of `lower` for the rest. -/
def laidOver
    (upper lower : Seed) :
    Seed :=
  ⟨upper.address <|> lower.address, upper.codeId <|> lower.codeId⟩

end Seed

/-- Seeds by name. A name stands at most once. -/
structure Seeds where
  entries : List (String × Seed)
  deriving DecidableEq, Repr

namespace Seeds

def empty : Seeds :=
  ⟨[]⟩

def seed
    (seeds : Seeds)
    (name : String) :
    Seed :=
  (seeds.entries.lookup name).getD Seed.unknown

def address?
    (seeds : Seeds)
    (name : String) :
    Option String :=
  (seeds.seed name).address

def codeId?
    (seeds : Seeds)
    (name : String) :
    Option CodeId :=
  (seeds.seed name).codeId

/-- Whether no resource has an address. -/
def isEmpty (seeds : Seeds) : Bool :=
  seeds.entries.all fun entry => entry.2.address.isNone

/-- Put a seed over what is known about a name, in a list of names and seeds. -/
def overlayEntries
    (name : String)
    (seed : Seed) :
    List (String × Seed) → List (String × Seed)
  | [] => [(name, seed)]
  | (first, held) :: rest =>
      if first = name then
        (first, seed.laidOver held) :: rest
      else
        (first, held) :: overlayEntries name seed rest

/-- Put a seed over what is known about a name. A blank address counts as none;
a field that the seed does not have keeps its value. -/
def overlay
    (seeds : Seeds)
    (name : String)
    (seed : Seed) :
    Seeds :=
  ⟨overlayEntries name seed.normal seeds.entries⟩

def withAddress
    (seeds : Seeds)
    (name address : String) :
    Seeds :=
  seeds.overlay name ⟨some address, none⟩

def withCode
    (seeds : Seeds)
    (name address : String)
    (codeId : CodeId) :
    Seeds :=
  seeds.overlay name ⟨some address, some codeId⟩

def overlayAll
    (seeds : Seeds)
    (overlays : List (String × Seed)) :
    Seeds :=
  overlays.foldl (fun seeds entry => seeds.overlay entry.1 entry.2) seeds

/-- The resources of a registry as seeds of a later run. -/
def ofRegistry (registry : Registry) : Seeds :=
  empty.overlayAll
    (registry.entries.map fun entry => (entry.name, ⟨some entry.address, entry.codeId⟩))

end Seeds

end Rollout
