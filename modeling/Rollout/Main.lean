import Rollout.Process.Host
import Rollout.Program

/-!
Contract: the program in the real world.

Owns:
- reading the environment, the variable file and the deployments file;
- carrying out effects: programs are started by the host, which is asked on the
  standard output and answers on the standard input, one line each;
- the directories that a run makes, which last as long as the run.

Does not own: any decision about a run.
-/

namespace Rollout.Console

def fileState (path : String) : IO FileState := do
  try
    return .ofBytes (← IO.FS.readBinFile path).toList
  catch
    | .noFileOrDirectory _ _ _ => return .missing
    | .inappropriateType _ 20 detail => return .unreachable (.other detail)
    | .inappropriateType _ 21 _ => return .blocked .isDirectory
    | fault => return .blocked (.other (toString fault))

def save
    (path content : String) :
    IO (Except FileFault Unit) := do
  try
    IO.FS.writeFile path content
    return .ok ()
  catch
    | .noFileOrDirectory _ _ _ => return .error .notFound
    | fault => return .error (.other (toString fault))

/-- The text of the file of a name in the working directory, or in the nearest of
some directories above it that has one. -/
def nearestText (name : String) : Nat → IO (Option String)
  | 0 => return (← fileState name).readableText
  | levels + 1 => do
      match ← fileState name with
      | .missing | .blocked .isDirectory => nearestText ("../" ++ name) levels
      | state => return state.readableText

def variableFile : IO (Option String) := do
  let directory ← IO.currentDir
  nearestText ".env" (directory.toString.toList.count '/')

def processEnvironment (names : List String) : IO Environment := do
  let values ← names.filterMapM fun name => do
    return (← IO.getEnv name).map fun value => (name, value)
  return .ofBlock values

def start (launch : Launch) : IO (Except LaunchFault ProcessOutput) := do
  let output ← IO.getStdout
  output.putStr launch.requestLine
  output.flush
  return HostReply.ofLine (← (← IO.getStdin).getLine)

/-- Make a new directory in a directory and note it. -/
def makeDirectory
    (made : IO.Ref (List String))
    (parent : String) :
    IO (Except FileFault String) := do
  let path := Cdp.pathIn parent ("rollout-" ++ toString (← IO.monoNanosNow))
  try
    IO.FS.createDir path
    made.modify fun earlier => path :: earlier
    return .ok path
  catch
    | .noFileOrDirectory _ _ _ => return .error .notFound
    | fault => return .error (.other (toString fault))

/-- Carry out an effect, with the deployments file at a path and the directories
that were made. -/
def carryOut
    (path : String)
    (made : IO.Ref (List String)) :
    (effect : Program.Effect) → IO effect.Answer
  | .start launch => start launch
  | .makeDirectory parent => makeDirectory made parent
  | .save content => save path content

def perform
    (options : Cdp.Options)
    (environment : Environment) :
    IO UInt32 := do
  let made ← IO.mkRef []
  let file ← fileState options.deploymentsPath
  let result ←
    (Program.perform options environment file).run
      (carryOut options.deploymentsPath made)
  (← made.get).forM fun path => IO.FS.removeDirAll path
  match result with
  | .ok _ => pure ()
  | .error fault => IO.eprintln fault.message
  return UInt32.ofNat (Program.resultCode result)

end Rollout.Console

/-- Read the command line and run. -/
def main (arguments : List String) : IO UInt32 := do
  let file ← Rollout.Console.variableFile
  let process ← Rollout.Console.processEnvironment (Rollout.Program.variableNames file)
  match Rollout.Program.environment process file with
  | none => return UInt32.ofNat Rollout.Program.noEnvironmentCode
  | some environment =>
      match Rollout.Cdp.Options.ofCommandLine arguments environment with
      | .error refusal =>
          IO.eprint (Rollout.Program.refusalText refusal)
          return UInt32.ofNat (Rollout.Program.refusalCode refusal)
      | .ok options => Rollout.Console.perform options environment
