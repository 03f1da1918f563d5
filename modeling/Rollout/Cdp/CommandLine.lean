import Rollout.Cdp.Options
import Rollout.Environment
import Rollout.Text.Commas

/-!
Contract: the choices of a run from its command line and its environment.

Owns:
- the settings, their names and what each accepts;
- reading arguments from left to right, with the reasons of a refusal;
- the environment for settings that the command line leaves open, and the
  standard choices for the rest.

Does not own: what is printed about a refusal.
-/

namespace Rollout.Cdp

/-! ## Settings -/

inductive Setting where
  | deploymentsPath
  | artifactsDir
  | scenarios
  | inspections
  | dryRun
  | seidBinary
  | gasPrices
  deriving DecidableEq, Repr

namespace Setting

def all : List Setting :=
  [.deploymentsPath, .artifactsDir, .scenarios, .inspections, .dryRun, .seidBinary,
    .gasPrices]

/-- The name of a setting on the command line, without its dashes. -/
def name : Setting → String
  | .deploymentsPath => "deployments-path"
  | .artifactsDir => "artifacts-dir"
  | .scenarios => "scenarios"
  | .inspections => "inspections"
  | .dryRun => "dry-run"
  | .seidBinary => "seid-binary"
  | .gasPrices => "gas-prices"

def ofName? (name : String) : Option Setting :=
  all.find? fun setting => setting.name == name

def variableName : Setting → String
  | .deploymentsPath => "DEPLOYMENTS_PATH"
  | .artifactsDir => "ARTIFACTS_DIR"
  | .scenarios => "DEPLOY_SCENARIOS"
  | .inspections => "DEPLOY_INSPECTIONS"
  | .dryRun => "DEPLOY_DRY_RUN"
  | .seidBinary => "SEID_BINARY"
  | .gasPrices => "GAS_PRICES"

/-- Whether a setting is a flag, which takes no value on the command line. -/
def isFlag : Setting → Bool
  | .dryRun => true
  | _ => false

/-- Whether a setting is a list, which may be given several times. -/
def isList : Setting → Bool
  | .scenarios | .inspections => true
  | _ => false

def flagValue : String :=
  "true"

def accepts : Setting → String → Bool
  | .deploymentsPath, value | .artifactsDir, value => !value.isEmpty
  | .scenarios, value =>
      (Text.commaParts value).all fun name => (Scenario.ofText? name).isSome
  | .inspections, value =>
      (Text.commaParts value).all fun name => (Inspection.ofText? name).isSome
  | .dryRun, value => value == flagValue || value == "false"
  | .seidBinary, _ | .gasPrices, _ => true

end Setting

/-- Why a command line starts no run. -/
inductive Refusal where
  /-- A value is bad or missing. -/
  | invalidValue
  | unknownArgument
  /-- What may be given once is given again. -/
  | argumentConflict
  /-- A flag is given a value. -/
  | tooManyValues
  /-- Help is asked for. -/
  | help
  deriving DecidableEq, Repr

/-! ## Arguments -/

inductive Argument where
  /-- Two dashes alone: what follows is no setting. -/
  | escape
  /-- A name after two dashes, with the value after an equals sign. -/
  | long (name : String) (attached : Option String)
  /-- One dash and letters, of which the first decides. -/
  | short (letter : Char)
  | plain (text : String)
  deriving DecidableEq, Repr

/-- A name with the value after the first equals sign. -/
def Argument.ofLong (characters : List Char) : Argument :=
  let name := characters.takeWhile (· != '=')
  match characters.dropWhile (· != '=') with
  | [] => .long (String.ofList name) none
  | _ :: value => .long (String.ofList name) (some (String.ofList value))

def Argument.ofText (text : String) : Argument :=
  match text.toList with
  | ['-', '-'] => .escape
  | '-' :: '-' :: characters => .ofLong characters
  | '-' :: letter :: _ => .short letter
  | _ => .plain text

structure CommandLine where
  /-- The accepted values in the order of their acceptance. -/
  given : List (Setting × String)
  /-- The setting that was named last and is not accepted yet, with its value once
  that was read. -/
  pending : Option (Setting × Option String)
  deriving DecidableEq, Repr

namespace CommandLine

def empty : CommandLine :=
  ⟨[], none⟩

/-- Whether a setting has an accepted value. -/
def has
    (read : CommandLine)
    (setting : Setting) :
    Bool :=
  read.given.any fun given => given.1 == setting

def accept
    (read : CommandLine)
    (setting : Setting)
    (value : String) :
    Except Refusal CommandLine :=
  if !setting.isList && read.has setting then
    .error .argumentConflict
  else if setting.accepts value then
    .ok { read with given := read.given ++ [(setting, value)] }
  else
    .error .invalidValue

/-- Accept the value of the setting that was named last. -/
def settle (read : CommandLine) : Except Refusal CommandLine :=
  match read.pending with
  | none => .ok read
  | some (_, none) => .error .invalidValue
  | some (setting, some value) => accept { read with pending := none } setting value

def settleAndAccept
    (read : CommandLine)
    (setting : Setting)
    (value : String) :
    Except Refusal CommandLine :=
  match read.settle with
  | .ok settled => settled.accept setting value
  | .error refusal => .error refusal

def settleAndAwait
    (read : CommandLine)
    (setting : Setting) :
    Except Refusal CommandLine :=
  match read.settle with
  | .ok settled => .ok { settled with pending := some (setting, none) }
  | .error refusal => .error refusal

def settleAndHelp (read : CommandLine) : Except Refusal CommandLine :=
  match read.settle with
  | .ok _ => .error .help
  | .error refusal => .error refusal

/-- Take a name with the value that is attached to it. -/
def takeLong
    (read : CommandLine)
    (name : String)
    (attached : Option String) :
    Except Refusal CommandLine :=
  if name = "help" then
    match attached with
    | none => read.settleAndHelp
    | some _ => .error .tooManyValues
  else
    match Setting.ofName? name, attached with
    | none, _ => .error .unknownArgument
    | some setting, none =>
        if setting.isFlag then
          read.settleAndAccept setting Setting.flagValue
        else
          read.settleAndAwait setting
    | some setting, some value =>
        if setting.isFlag then
          .error .tooManyValues
        else
          read.settleAndAccept setting value

/-- Take a text that names no setting: the value that is waited for. -/
def takePlain
    (read : CommandLine)
    (text : String) :
    Except Refusal CommandLine :=
  match read.pending with
  | some (setting, none) => .ok { read with pending := some (setting, some text) }
  | some (_, some _) | none => .error .unknownArgument

/-- Take arguments from left to right. -/
def takeAll : CommandLine → List String → Except Refusal CommandLine
  | read, [] => read.settle
  | read, argument :: rest =>
      let after : Except Refusal CommandLine → Except Refusal CommandLine
        | .ok read => takeAll read rest
        | .error refusal => .error refusal
      match Argument.ofText argument with
      | .escape => if rest.isEmpty then read.settle else .error .unknownArgument
      | .long name attached => after (read.takeLong name attached)
      | .short 'h' => after read.settleAndHelp
      | .short _ => .error .unknownArgument
      | .plain text => after (read.takePlain text)

def valuesOf
    (read : CommandLine)
    (setting : Setting) :
    List String :=
  (read.given.filter fun given => given.1 == setting).map Prod.snd

/-- The values of a setting: those of the command line, or else the one of the
environment, which is checked only then. -/
def chosen
    (read : CommandLine)
    (environment : Environment)
    (setting : Setting) :
    Except Refusal (List String) :=
  match read.valuesOf setting with
  | [] =>
      match environment setting.variableName with
      | none => .ok []
      | some value => if setting.accepts value then .ok [value] else .error .invalidValue
  | values => .ok values

end CommandLine

/-! ## Options -/

def listItems
    {α : Type}
    (ofText? : String → Option α)
    (values : List String) :
    List α :=
  (values.flatMap Text.commaParts).filterMap ofText?

def Options.withValues
    (options : Options) :
    Setting → List String → Options
  | _, [] => options
  | .deploymentsPath, value :: _ => { options with deploymentsPath := value }
  | .artifactsDir, value :: _ => { options with artifactsDir := value }
  | .scenarios, values => { options with scenarios := listItems Scenario.ofText? values }
  | .inspections, values =>
      { options with inspections := listItems Inspection.ofText? values }
  | .dryRun, value :: _ => { options with dryRun := value == Setting.flagValue }
  | .seidBinary, value :: _ => { options with seidBinary := value }
  | .gasPrices, value :: _ => { options with gasPrices := value }

/-- Put the chosen values of settings over options. -/
def Options.withChosen
    (read : CommandLine)
    (environment : Environment) :
    List Setting → Options → Except Refusal Options
  | [], options => .ok options
  | setting :: rest, options =>
      match read.chosen environment setting with
      | .error refusal => .error refusal
      | .ok values => withChosen read environment rest (options.withValues setting values)

def Options.ofCommandLine
    (arguments : List String)
    (environment : Environment) :
    Except Refusal Options :=
  match CommandLine.empty.takeAll arguments with
  | .error refusal => .error refusal
  | .ok read => withChosen read environment Setting.all .standard

end Rollout.Cdp
