import Rollout.FileState
import Rollout.Json.Printer
import Rollout.Json.Reader
import Rollout.Seeds

/-!
Contract: the deployments file, which carries the live resources from one run to
the next.

Owns:
- the two forms in which seeds may be written, and reading them;
- recording a registry in the content of the file, which keeps everything else;
- reading from and writing to the file, and the faults.

Does not own: when a run reads or writes the file.
-/

namespace Rollout

inductive ReadFault where
  | file (fault : FileFault)
  | notJson
  /-- The content does not have the form of recorded deployments. -/
  | malformed
  deriving DecidableEq, Repr

/-- What a fault says. The text for content that is not JSON, and that for content of another
form, are fixed. They stand in place of the words in which a JSON library would report where and
why it stopped reading. -/
def ReadFault.message : ReadFault → String
  | .file fault => fault.message
  | .notJson => "not a JSON text"
  | .malformed => "not a record of deployments"

inductive WriteFault where
  | file (fault : FileFault)
  /-- The file at a path has no place for deployments. -/
  | noRecord (path : String)
  deriving DecidableEq, Repr

def WriteFault.message : WriteFault → String
  | .file fault => fault.message
  | .noRecord path => path ++ " does not hold a `deployments` object"

inductive DeploymentsFault where
  | read (fault : ReadFault)
  | write (fault : WriteFault)
  deriving DecidableEq, Repr

def DeploymentsFault.message : DeploymentsFault → String
  | .read fault => "error reading deployments: " ++ fault.message
  | .write fault => "error writing deployments: " ++ fault.message

namespace Deployments

def memberName : String :=
  "deployments"

/-! ## Seeds -/

/-- An address that may be absent. -/
def addressField? : Json → Option (Option String)
  | .null => some none
  | .string address => some (some address)
  | _ => none

/-- A code id that may be absent. -/
def codeIdField? : Json → Option (Option CodeId)
  | .null => some none
  | value => value.unsigned?.map some

def seedOfFields?
    (address codeId : Json) :
    Option Seed :=
  match addressField? address, codeIdField? codeId with
  | some address, some codeId => some ⟨address, codeId⟩
  | _, _ => none

/-- A member of an object; an absent one counts as null. -/
def memberOrNull
    (members : List (String × Json))
    (name : String) :
    Json :=
  (members.lookup name).getD .null

/-- A seed: an object with optional members, or the array of its fields, from
whose end fields may be missing. -/
def seed? : Json → Option Seed
  | .object members =>
      seedOfFields? (memberOrNull members "address") (memberOrNull members "code_id")
  | .array [] => seedOfFields? .null .null
  | .array [address] => seedOfFields? address .null
  | .array [address, codeId] => seedOfFields? address codeId
  | _ => none

/-- Seeds by name, in the order of the members. -/
def namedSeeds? : List (String × Json) → Option (List (String × Seed))
  | [] => some []
  | (name, value) :: rest =>
      match seed? value, namedSeeds? rest with
      | some seed, some seeds => some ((name, seed) :: seeds)
      | _, _ => none

/-- The recorded deployments: the member of an object, none if it is absent, or
the only item of an array. -/
def recorded? : Json → Option (List (String × Json))
  | .object members =>
      match members.lookup memberName with
      | none => some []
      | some (.object deployments) => some deployments
      | some _ => none
  | .array [] => some []
  | .array [.object deployments] => some deployments
  | _ => none

def seedsOf? (value : Json) : Option Seeds :=
  ((recorded? value).bind namedSeeds?).map Seeds.empty.overlayAll

/-! ## Recording -/

def entryValue (entry : Entry) : Json :=
  .ofMembers
    [("address", .string entry.address),
      ("code_id", (entry.codeId.map fun codeId => Json.ofNat codeId.toNat).getD .null)]

def withEntries
    (entries : List Entry)
    (deployments : List (String × Json)) :
    List (String × Json) :=
  entries.foldl
    (fun deployments entry => Json.insertMember entry.name (entryValue entry) deployments)
    deployments

/-- The deployments among the members of an object, for an addition: none if
there is no such member or it is null. -/
def heldBy? (members : List (String × Json)) : Option (List (String × Json)) :=
  match memberOrNull members memberName with
  | .null => some []
  | .object deployments => some deployments
  | _ => none

/-- Record a registry in a value. Without entries the value stays as it is. -/
def merge?
    (registry : Registry) :
    Json → Option Json
  | .object members =>
      match heldBy? members with
      | none => none
      | some deployments =>
          if registry.isEmpty then
            some (.object members)
          else
            some (.object
              (Json.insertMember memberName
                (.object (withEntries registry.entries deployments)) members))
  | _ => none

/-! ## The file -/

def value (file : FileState) : Except DeploymentsFault Json :=
  match file.read with
  | .error fault => .error (.read (.file fault))
  | .ok content =>
      match Json.ofText? content with
      | some value => .ok value
      | none => .error (.read .notJson)

/-- The seeds that a file records; none if there is no file. -/
def seeds (file : FileState) : Except DeploymentsFault Seeds :=
  if file.isPresent then
    match value file with
    | .error fault => .error fault
    | .ok value =>
        match seedsOf? value with
        | some seeds => .ok seeds
        | none => .error (.read .malformed)
  else
    .ok .empty

/-- The value in which a registry is recorded: that of the file, or an empty
object if there is no file. -/
def base (file : FileState) : Except DeploymentsFault Json :=
  if file.isPresent then value file else .ok (.object [])

/-- The content of a file after a registry is recorded in it. -/
def updated
    (path : String)
    (registry : Registry)
    (file : FileState) :
    Except DeploymentsFault String :=
  match base file with
  | .error fault => .error fault
  | .ok value =>
      match merge? registry value with
      | some merged => .ok merged.pretty
      | none => .error (.write (.noRecord path))

def write
    (path : String)
    (registry : Registry)
    (file : FileState) :
    Except DeploymentsFault FileState :=
  match updated path registry file with
  | .error fault => .error fault
  | .ok content =>
      match file.save content with
      | .error fault => .error (.write (.file fault))
      | .ok saved => .ok saved

end Deployments

end Rollout
