import Rollout.Template

/-!
Contract: the definition of a resource to provision.

Owns: where the code of a resource comes from, the template of the message that
instantiates it, its funds and its label, and the resources that it depends on.

Does not own: the order of resources.
-/

namespace Rollout

/-- Where the code of a resource comes from. -/
inductive Artifact where
  /-- An artifact to register, by its locator. -/
  | upload (locator : String)
  /-- The code that another resource was instantiated from. -/
  | reuse (source : String)
  deriving DecidableEq, Repr

/-- A resource to provision. -/
structure Descriptor where
  name : String
  artifact : Artifact
  /-- The message that instantiates the resource. -/
  template : Json
  /-- The coins sent along, as a template of a coin list. -/
  funds : Option String
  label : String
  deriving DecidableEq, Repr

namespace Descriptor

/-- A resource with an artifact of its own and no funds. -/
def ofUpload
    (name locator label : String)
    (template : Json) :
    Descriptor :=
  ⟨name, .upload locator, template, none, label⟩

/-- A resource that reuses the code of another one and has no funds. -/
def ofReuse
    (name source label : String)
    (template : Json) :
    Descriptor :=
  ⟨name, .reuse source, template, none, label⟩

def withFunds
    (descriptor : Descriptor)
    (funds : String) :
    Descriptor :=
  { descriptor with funds := some funds }

/-! ## Dependencies -/

/-- The placeholders of the template and then of the funds. -/
def placeholders (descriptor : Descriptor) : Except TemplateFault (List Placeholder) :=
  Template.join
    (Template.placeholders descriptor.template)
    (match descriptor.funds with
      | none => .ok []
      | some funds => Template.placeholdersOfText funds)

/-- The resource whose code is reused, as a list. -/
def source (descriptor : Descriptor) : List String :=
  match descriptor.artifact with
  | .upload _ => []
  | .reuse source => [source]

/-- The names of a list that are met for the first time, after names that were
met already. -/
def newNames : List String → List String → List String
  | _, [] => []
  | met, name :: rest =>
      if name ∈ met then
        newNames met rest
      else
        name :: newNames (name :: met) rest

/-- The resources that a resource depends on: the source of its code, then those
named in its template and its funds, each once. -/
def dependencies (descriptor : Descriptor) : Except TemplateFault (List String) :=
  match descriptor.placeholders with
  | .error fault => .error fault
  | .ok placeholders =>
      .ok (newNames []
        (descriptor.source ++ placeholders.filterMap Placeholder.resource?))

end Descriptor

end Rollout
