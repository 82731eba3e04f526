import PipeShell.Line
import PipeShell.Text.Comparison

/-! # Built-in commands

The two commands the shell carries out itself. Only the first stage's program
name decides, whatever the rest of the line holds. -/

set_option autoImplicit false

namespace PipeShell

/-- A command that spawns nothing. -/
inductive Builtin where
  /-- Changes the working directory. -/
  | cd
  /-- Ends the session. -/
  | exit
  deriving DecidableEq, Repr

def Line.builtin? (line : Line) : Option Builtin :=
  match line.program? with
  | none => none
  | some program =>
    if Text.equalsIgnoringCase program "exit" then some .exit
    else if Text.equalsIgnoringCase program "cd" then some .cd
    else none

end PipeShell
