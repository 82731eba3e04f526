import PipeShell.Script.Expansion
import PipeShell.Utility.Basic

/-! # Built-in commands

Commands that a script carries out itself. Each gets its arguments, and is told
how to go on: after it has done its work, or after an error that it has told. -/

set_option autoImplicit false

namespace PipeShell.Script

open PipeShell.System

structure Outcomes where
  next : Next
  fail : Next

abbrev Builtin := Context → Outcomes → List String → State → Program

namespace Builtin

/-- The commands that a script carries out itself and that are no part of the
language. -/
def regularNames : List String :=
  ["[", "alias", "bg", "cd", "chdir", "command", "echo", "false", "fg", "getopts", "hash", "jobs", "kill", "printf",
    "pwd", "read", "test", "true", "type", "ulimit", "umask", "unalias", "wait"]

def isBuiltin (name : String) : Bool := specialNames.contains name || regularNames.contains name

def done (outcomes : Outcomes) (status : Nat) (state : State) : Program := outcomes.next (state.withStatus status)

def refuse (outcomes : Outcomes) (text : String) (state : State) : Program :=
  state.complain text fun state => outcomes.fail (state.withStatus 2)

def print (outcomes : Outcomes) (data : Bytes) (status : Nat) (state : State) : Program :=
  if data.isEmpty then done outcomes status state
  else
    .write Program.outputDescriptor data fun answer =>
      match answer with
      | none => done outcomes status state
      | some _ => state.complain (state.command.getD "" ++ ": I/O error") fun state =>
          done outcomes (status ||| 1) state

def printText (outcomes : Outcomes) (text : String) (status : Nat) (state : State) : Program :=
  print outcomes (rawBytes text) status state

def number (word : String) : Except String Nat :=
  match Utility.number? word with
  | some value => if value < 2147483648 then .ok value else .error ("Illegal number: " ++ word)
  | none => .error ("Illegal number: " ++ word)

/-- The options in front of the arguments, with their values, and the words behind
them; or what is wrong. -/
def readOptions (flags valued : List Char) : Nat → List String → List (Char × String) →
    Except String (List (Char × String) × List String)
  | 0, words, done => .ok (done.reverse, words)
  | _ + 1, [], done => .ok (done.reverse, [])
  | bound + 1, word :: rest, done =>
    match word.toList with
    | ['-', '-'] => .ok (done.reverse, rest)
    | '-' :: letter :: letters =>
      if flags.contains letter then
        let more := if letters.isEmpty then rest else String.ofList ('-' :: letters) :: rest
        readOptions flags valued bound more ((letter, "") :: done)
      else if valued.contains letter then
        if !letters.isEmpty then readOptions flags valued bound rest ((letter, String.ofList letters) :: done)
        else
          match rest with
          | value :: rest => readOptions flags valued bound rest ((letter, value) :: done)
          | [] => .error ("No arg for -" ++ String.singleton letter ++ " option")
      else .error ("Illegal option -" ++ String.singleton letter)
    | _ => .ok (done.reverse, word :: rest)

def withOptions (flags valued : List Char) (outcomes : Outcomes) (words : List String) (state : State)
    (next : List (Char × String) → List String → Program) : Program :=
  match readOptions flags valued (words.foldl (· + 1 + ·.length) 1) words [] with
  | .ok (given, rest) => next given rest
  | .error text => refuse outcomes text state

def assign (outcomes : Outcomes) (name value : String) (state : State) (next : Next) : Program :=
  if !isName name then refuse outcomes (name ++ ": bad variable name") state
  else
    match state.assign? name value with
    | some state => next state
    | none => refuse outcomes (name ++ ": is read only") state

end Builtin

end PipeShell.Script
