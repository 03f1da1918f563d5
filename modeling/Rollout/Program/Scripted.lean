import Rollout.FileTree
import Rollout.Process.Scripted
import Rollout.Program

/-!
Contract: the effects of the program carried out on values, with prepared replies and
a tree of files.

Owns:
- what a stage holds, and the answer of each effect on it;
- whether programs can be started with the variables of a variable file.

Does not own: the decisions of a run, which only see the answers.
-/

namespace Rollout.Program

/-- Whether a started program can be handed the variables that a variable file adds.
Each has to be as short as an argument, with its name and the sign between. -/
def canHandOver
    (process : Environment)
    (variableFile : Option String) :
    Bool :=
  let loaded := EnvironmentFile.load process (variableFile.getD "")
  let environment := EnvironmentFile.extend process loaded.definitions
  loaded.definitions.all fun (name, _) =>
    (name ++ "=" ++ (environment name).getD "").utf8ByteSize < ScriptedShell.argumentBound

/-- What the effects of a run change, and what they depend on. -/
structure Stage where
  shell : ScriptedShell
  tree : FileTree
  deploymentsPath : String
  /-- The path of the working directory. -/
  workingDirectory : String
  /-- What new directories are called. -/
  directoryName : String
  deriving DecidableEq, Repr

namespace Stage

def makeDirectory
    (stage : Stage)
    (parent : String) :
    Except FileFault String × Stage :=
  let path := Cdp.pathIn (Cdp.pathIn stage.workingDirectory parent) stage.directoryName
  match stage.tree.makeDirectory path with
  | .ok tree => (.ok path, { stage with tree := tree })
  | .error fault => (.error fault, stage)

def save
    (stage : Stage)
    (content : String) :
    Except FileFault Unit × Stage :=
  match stage.tree.save stage.deploymentsPath content with
  | .ok tree => (.ok (), { stage with tree := tree })
  | .error fault => (.error fault, stage)

def respond : Responder Effect Effect.Answer Stage
  | .start launch, stage =>
      let (answer, shell) := ScriptedShell.respond launch stage.shell
      (answer, { stage with shell := shell })
  | .makeDirectory parent, stage => stage.makeDirectory parent
  | .save content, stage => stage.save content

end Stage

end Rollout.Program
