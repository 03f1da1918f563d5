/-!
Contract: configuration values from the environment.

Owns:
- environments, in which an empty value counts as absent;
- environments from a table of values and from the block of a process;
- the demand for several values at once.

Does not own: which values a program demands.
-/

namespace Rollout

/-- The values of variables by name. -/
abbrev Environment := String → Option String

/-- The variables that are demanded and absent, in the order of the demand. -/
structure MissingVariables where
  names : List String
  deriving DecidableEq, Repr

def MissingVariables.message (missing : MissingVariables) : String :=
  "missing required configuration: " ++ String.intercalate ", " missing.names

namespace Environment

def ofList (values : List (String × String)) : Environment :=
  fun name => values.lookup name

/-- The rest of the entry `held=value` of a process after a name and an equals
sign, if it begins so. -/
def entryRest?
    (name held value : String) :
    Option String :=
  ((name.toList ++ ['=']).isPrefixOf? (held.toList ++ '=' :: value.toList)).map
    String.ofList

/-- The environment of a process with the given entries. A name is met by the first
entry that begins with it and an equals sign, so a name that holds an equals sign
itself reaches into a value. The empty name is met by none. -/
def ofBlock (entries : List (String × String)) : Environment :=
  fun name =>
    if name.isEmpty then
      none
    else
      entries.findSome? fun (held, value) => entryRest? name held value

/-- A value that is not empty. -/
def get?
    (environment : Environment)
    (name : String) :
    Option String :=
  (environment name).filter fun value => !value.isEmpty

def missing
    (environment : Environment)
    (names : List String) :
    List String :=
  names.filter fun name => (environment.get? name).isNone

/-- The values of all names, or the names that have none. -/
def require
    (environment : Environment)
    (names : List String) :
    Except MissingVariables (List String) :=
  match environment.missing names with
  | [] => .ok (names.filterMap environment.get?)
  | absent => .error ⟨absent⟩

end Environment

end Rollout
