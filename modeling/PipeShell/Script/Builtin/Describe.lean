import PipeShell.Script.Builtin.Basic

/-! # What names mean

Commands that tell what a name would run, and that remember where programs are
found. -/

set_option autoImplicit false

namespace PipeShell.Script.Builtin

open PipeShell.System

inductive Meaning where
  | keyword
  | alias (text : String)
  | function
  | builtin (special : Bool)
  /-- A program at a path, which may have been found before. -/
  | program (path : String) (before : Bool)
  | nothing
  deriving DecidableEq, Repr

def meaning (context : Context) (state : State) (files : FileSystem) (name : String) : Meaning :=
  if Token.keywords.contains name then .keyword
  else
    match state.aliases.lookup name with
    | some text => .alias text
    | none =>
      if (state.functions.lookup name).isSome then .function
      else if isBuiltin name then .builtin (specialNames.contains name)
      else if name.toList.contains '/' then
        if files.hasPath state.viewer name then .program name false else .nothing
      else
        match context.find (state.lookup? "PATH") state.viewer name files with
        | .ok path => .program path (state.found.contains name)
        | .error _ => .nothing

def Meaning.sentence (name : String) : Meaning → String × Nat
  | .keyword => (name ++ " is a shell keyword\n", 0)
  | .alias text => (name ++ " is an alias for " ++ text ++ "\n", 0)
  | .function => (name ++ " is a shell function\n", 0)
  | .builtin special => (name ++ " is a " ++ (if special then "special " else "") ++ "shell builtin\n", 0)
  | .program path before => (name ++ " is " ++ (if before then "a tracked alias for " else "") ++ path ++ "\n", 0)
  | .nothing => (name ++ ": not found\n", 127)

/-- The word about a meaning that a script could use, and the status that goes with
it. -/
def Meaning.word (name : String) : Meaning → String × Nat
  | .alias text => ("alias " ++ name ++ "=" ++ shellQuoted text ++ "\n", 0)
  | .program path _ => (path ++ "\n", 0)
  | .nothing => ("", 127)
  | _ => (name ++ "\n", 0)

def remember (name : String) (meaning : Meaning) (state : State) : State :=
  match meaning with
  | .program _ _ =>
    if name.toList.contains '/' || state.found.contains name then state
    else { state with found := name :: state.found }
  | _ => state

def describe : Builtin := fun context outcomes words state =>
  .look fun files =>
    let rec go (state : State) (printed : String) (status : Nat) : List String → Program
      | [] => printText outcomes printed status state
      | name :: rest =>
        let meaning := meaning context state files name
        let (text, code) := meaning.sentence name
        go (remember name meaning state) (printed ++ text) (status ||| code) rest
    go state "" 0 words

def describeOne (verbose : Bool) : Builtin := fun context outcomes words state =>
  match words with
  | [] => done outcomes 0 state
  | name :: _ =>
    .look fun files =>
      let meaning := meaning context state files name
      let (text, status) := if verbose then meaning.sentence name else meaning.word name
      printText outcomes text status (remember name meaning state)

def programGroup (name : String) : Nat :=
  match (rawBytes name).head? with
  | none => 0
  | some first => (first.toNat * 16 + (rawBytes name).foldl (· + ·.toNat) 0) % 32768 % 31

def hash : Builtin := fun context outcomes words state =>
  withOptions ['r'] [] outcomes words state fun given words =>
    let state := if given.isEmpty then state else { state with found := [] }
    .look fun files =>
      let path (name : String) : Option String :=
        (context.find (state.lookup? "PATH") state.viewer name files).toOption
      if words.isEmpty then
        let sorted := state.found.reverse.mergeSort fun a b => programGroup a ≤ programGroup b
        let paths := if given.isEmpty then sorted.filterMap path else []
        printText outcomes (String.join (paths.map (· ++ "\n"))) 0 state
      else
        let rec go (state : State) (status : Nat) : List String → Program
          | [] => done outcomes status state
          | name :: rest =>
            match meaning context state files name with
            | .nothing => state.complain (name ++ ": not found") fun state => go state 1 rest
            | meaning => go (remember name meaning state) status rest
        go state 0 words

end PipeShell.Script.Builtin
