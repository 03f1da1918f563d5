import Rollout.Cdp.CommandLine
import Rollout.Cdp.Deployment
import Rollout.EnvironmentFile
import Rollout.Seid
import Rollout.Text.Unsigned

/-!
Contract: the program as a whole, from its arguments to its exit code.

Owns:
- the environment that a variable file extends, and the number of workers that it
  can set;
- what is said about a command line that starts no run, and the exit codes;
- carrying out the actions of a deployment through the command `seid`, which leaves
  three effects: starting a program, making a directory and saving the deployments
  file.

Does not own: how programs are started and files are read and written.
-/

namespace Rollout.Program

open Rollout.Cdp

/-! ## Before a run -/

/-- The variable that sets how many workers the program has. -/
def workersVariableName : String :=
  "TOKIO_WORKER_THREADS"

/-- A number of workers that the program can never have: at eight bytes each, a list
of so many is larger than half of what 64 bits can address. -/
def workersBound : Nat :=
  0x1000000000000000

/-- Whether the program can have the workers that an environment asks for. There has
to be one, and without the variable the number is up to the program. -/
def hasWorkers (process : Environment) : Bool :=
  match process workersVariableName with
  | none => true
  | some text =>
      match Text.readUnsigned workersBound text with
      | .ok number => number != 0
      | .error _ => false

/-- The environment with the variables of an optional variable file. A file that is
not well formed counts as far as it is. There is no environment if the file sets
what cannot be set. -/
def extendedEnvironment
    (process : Environment)
    (variableFile : Option String) :
    Option Environment :=
  match variableFile with
  | none => some process
  | some text =>
      let loaded := EnvironmentFile.load process text
      match loaded.ending with
      | .complete | .malformedLine =>
          some (EnvironmentFile.extend process loaded.definitions)
      | .unsettable => none

/-- The environment of a run: that of the process with the variables of an optional
variable file. There is none if the process asks for workers that cannot be had, or
if the file sets what cannot be set. -/
def environment
    (process : Environment)
    (variableFile : Option String) :
    Option Environment :=
  if hasWorkers process then extendedEnvironment process variableFile else none

def noEnvironmentCode : Nat :=
  101

/-- The variable that names the directory for temporary directories. -/
def temporaryVariableName : String :=
  "TMPDIR"

def temporaryDirectory (environment : Environment) : String :=
  (environment temporaryVariableName).getD "/tmp"

/-- The environment variables that a run can depend on. -/
def variableNames (variableFile : Option String) : List String :=
  [workersVariableName, temporaryVariableName] ++
    Setting.all.map Setting.variableName ++ requiredNames ++
    (descriptors "").flatMap (fun descriptor =>
      [addressSeedName descriptor.name, codeIdSeedName descriptor.name]) ++
    EnvironmentFile.variableNames (variableFile.getD "")

def settingUsage (setting : Setting) : String :=
  "  --" ++ setting.name ++ (if setting.isFlag then "" else " <value>") ++ "\n"

def usage : String :=
  "usage: rollout [settings]\n" ++ String.join (Setting.all.map settingUsage)

def refusalText : Refusal → String
  | .help => usage
  | .invalidValue => "a value is missing or not valid\n" ++ usage
  | .unknownArgument => "an argument is not known\n" ++ usage
  | .argumentConflict => "a setting is given more than once\n" ++ usage
  | .tooManyValues => "a flag takes no value\n" ++ usage

def refusalCode : Refusal → Nat
  | .help => 0
  | .invalidValue | .unknownArgument | .argumentConflict | .tooManyValues => 2

def resultCode : Except DeploymentFault Report → Nat
  | .ok _ => 0
  | .error _ => 1

/-! ## Effects -/

/-- What the program does to the world. -/
inductive Effect where
  | start (launch : Launch)
  /-- Make a new directory in a directory, for as long as the run lasts. The answer
  is its path. -/
  | makeDirectory (parent : String)
  /-- Save a text as the deployments file. -/
  | save (content : String)
  deriving DecidableEq, Repr

@[reducible] def Effect.Answer : Effect → Type
  | .start launch => LaunchAnswer launch
  | .makeDirectory _ => Except FileFault String
  | .save _ => Except FileFault Unit

abbrev Effectful (α : Type) : Type :=
  Dialogue Effect Effect.Answer α

def starting {α : Type} : Shell α → Effectful α
  | .done value => .done value
  | .ask launch next => .ask (.start launch) fun answer => starting (next answer)

/-- How the chain of a configuration is reached. -/
def settings
    (options : Options)
    (keyring : String)
    (config : Config) :
    SeidSettings :=
  ⟨options.seidBinary, config.rpcEndpoint, config.chainId, options.gasPrices, keyring⟩

/-- Connect to the chain of a configuration, with a keyring in a new directory. -/
def connect
    (options : Options)
    (parent : String)
    (config : Config) :
    Effectful (Except String Seid) :=
  .ask (.makeDirectory parent) fun
  | .error fault => .done (.error fault.message)
  | .ok keyring => starting (Seid.connect (settings options keyring config) config.mnemonic)

/-- Answer a call over a connection, if there is one. -/
def answerCall
    (connection : Option Seid)
    (call : Call) :
    Effectful call.Answer :=
  match connection with
  | some seid => starting (seid.respond call)
  | none => .done (.error (.command "not connected"))

/-- Carry out the actions of a procedure through the command `seid`. The connection
is the one that was made last. -/
def carryOut
    {α : Type}
    (options : Options)
    (parent : String) :
    Option Seid → Procedure α → Effectful α
  | _, .done value => .done value
  | connection, .ask (.connect config) next =>
      (connect options parent config).bind fun
      | .ok seid => carryOut options parent (some seid) (next (.ok seid.signer))
      | .error detail => carryOut options parent connection (next (.error detail))
  | connection, .ask (.call call) next =>
      (answerCall connection call).bind fun answer =>
        carryOut options parent connection (next answer)
  | connection, .ask (.save content) next =>
      .ask (.save content) fun saved => carryOut options parent connection (next saved)

/-! ## A run -/

def perform
    (options : Options)
    (environment : Environment)
    (file : FileState) :
    Effectful (Except DeploymentFault Report) :=
  carryOut options (temporaryDirectory environment) none
    (Cdp.run options environment file)

end Rollout.Program
