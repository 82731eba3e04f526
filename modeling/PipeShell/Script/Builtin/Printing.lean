import PipeShell.Script.Builtin.Basic
import PipeShell.Script.Condition
import PipeShell.Utility.Printf
import PipeShell.Utility.Printing

/-! # Built-in commands that print or test

The built-in `echo`, `printf` and `test`. -/

set_option autoImplicit false

namespace PipeShell.Script.Builtin

open PipeShell.System

def echoDialect : Utility.EscapeDialect where
  bareOctal := true
  leadingZero := true
  hexadecimal := false
  escapeLetter := true
  quote := false

def echo : Builtin := fun _ outcomes words state =>
  let (newline, words) :=
    match words with
    | "-n" :: rest => (false, rest)
    | words => (true, words)
  print outcomes (Utility.echoBytes echoDialect true newline words) 0 state

def printfDialect : Utility.PrintfDialect where
  format := { echoDialect with leadingZero := false, stops := false }
  argument := echoDialect
  flags := ['#', '-', '+', ' ', '0']
  sizes := []
  letters := ['d', 'i', 'o', 'u', 'x', 'X', 'c', 's', 'b', 'a', 'A', 'e', 'E', 'f', 'F', 'g', 'G']
  forbids := fun _ => []
  bits := 53
  greatest := 1024
  shown := id
  notNumber := "expected numeric value"
  partNumber := "not completely converted"
  unknown := "invalid directive"
  unfinished := fun _ => "missing format character"

def complainAll (texts : List String) (state : State) (next : Next) : Program :=
  match texts with
  | [] => next state
  | text :: rest => state.complain text fun state => complainAll rest state next

/-- Prints its arguments under a format. What went wrong is said before anything is
printed. -/
def printf : Builtin := fun _ outcomes words state =>
  withOptions [] [] outcomes words state fun _ words =>
    match words with
    | [] => refuse outcomes "usage: printf format [arg ...]" state
    | format :: arguments =>
      let printed := Utility.printFormatted printfDialect format arguments
      complainAll printed.complaints state fun state =>
        let outcomes := if printed.broken then { outcomes with next := outcomes.fail } else outcomes
        print outcomes printed.output (if printed.broken then 2 else if printed.failed then 1 else 0) state

def test : Builtin := fun _ outcomes words state =>
  let bracket := state.command == some "["
  if bracket && words.getLast? != some "]" then refuse outcomes "missing ]" state
  else
    .look fun files =>
      match Condition.evaluate ⟨files, state.viewer⟩ (if bracket then words.dropLast else words) with
      | .ok value => done outcomes (if value then 0 else 1) state
      | .error text => refuse outcomes text state

end PipeShell.Script.Builtin
