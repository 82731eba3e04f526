/-! # Environments

The variables that a process is given: names with texts, each name once. -/

set_option autoImplicit false

namespace PipeShell

/-- The variables of a process. -/
structure Environment where
  bindings : List (String × String)
  deriving DecidableEq, Repr

namespace Environment

def empty : Environment := ⟨[]⟩

def get? (environment : Environment) (name : String) : Option String :=
  environment.bindings.lookup name

/-- What follows a name and an equals sign in the entry that begins with them. A
name that holds an equals sign itself reaches into the text of a variable. -/
def after? (environment : Environment) (name : String) : Option String :=
  environment.bindings.findSome? fun (key, value) =>
    let entry := (key ++ "=" ++ value).toList
    let front := (name ++ "=").toList
    if front.isPrefixOf entry then some (String.ofList (entry.drop front.length)) else none

def erase (environment : Environment) (name : String) : Environment :=
  ⟨environment.bindings.filter (·.1 != name)⟩

/-- Sets a variable in a list; a new one comes last. -/
def setIn (name value : String) : List (String × String) → List (String × String)
  | [] => [(name, value)]
  | (key, old) :: rest => if key == name then (name, value) :: rest else (key, old) :: setIn name value rest

def set (environment : Environment) (name value : String) : Environment :=
  ⟨setIn name value environment.bindings⟩

/-- Sets the variable unless it is already set, even to the empty text. -/
def setDefault (environment : Environment) (name value : String) : Environment :=
  if (environment.get? name).isSome then environment else environment.set name value

/-- The home directory: what `HOME` says unless it is missing or empty, and otherwise that of
the account, which need not have one. -/
def home (environment : Environment) (account : Option String) : Option String :=
  match environment.get? "HOME" with
  | none => account
  | some home => if home.isEmpty then account else some home

end Environment

end PipeShell
