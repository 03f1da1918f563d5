/-!
Contract: the record of the resources that are live after a run.

Owns:
- entries and the registry that lists them in the order of their recording;
- access by name.

Does not own: when entries are recorded.
-/

namespace Rollout

/-- The id under which a chain keeps the code of a contract. -/
abbrev CodeId := UInt64

/-- A live resource. -/
structure Entry where
  name : String
  /-- The code id, if it is known; that of a created resource always is. -/
  codeId : Option CodeId
  address : String
  /-- Whether the resource was created in this run. -/
  created : Bool
  deriving DecidableEq, Repr

namespace Entry

/-- The entry of a resource created in this run. -/
def ofCreation
    (name : String)
    (codeId : CodeId)
    (address : String) :
    Entry :=
  ⟨name, some codeId, address, true⟩

/-- The entry of a resource that was there before. -/
def ofReuse
    (name : String)
    (address : String)
    (codeId : Option CodeId) :
    Entry :=
  ⟨name, codeId, address, false⟩

end Entry

/-- The live resources, in the order in which they were recorded. -/
structure Registry where
  entries : List Entry
  deriving DecidableEq, Repr

namespace Registry

def empty : Registry :=
  ⟨[]⟩

def record
    (registry : Registry)
    (entry : Entry) :
    Registry :=
  ⟨registry.entries ++ [entry]⟩

/-- The first entry of a name. -/
def find?
    (registry : Registry)
    (name : String) :
    Option Entry :=
  registry.entries.find? fun entry => entry.name == name

def address?
    (registry : Registry)
    (name : String) :
    Option String :=
  (registry.find? name).map Entry.address

def codeId?
    (registry : Registry)
    (name : String) :
    Option CodeId :=
  (registry.find? name).bind Entry.codeId

def names (registry : Registry) : List String :=
  registry.entries.map Entry.name

def size (registry : Registry) : Nat :=
  registry.entries.length

def isEmpty (registry : Registry) : Bool :=
  registry.entries.isEmpty

end Registry

end Rollout
