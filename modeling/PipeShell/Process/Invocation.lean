import PipeShell.Environment
import PipeShell.Process.Program

/-! # Invocations

What a program knows when it starts: its words, its environment, who and where
it is, and the numbers of its process and of the one that started it. -/

set_option autoImplicit false

namespace PipeShell

open PipeShell.System

/-- A call of a program that has become a process. -/
structure Invocation where
  /-- The name it is called by. -/
  name : String
  arguments : List String
  environment : Environment
  /-- Who runs it, and where. -/
  viewer : Viewer
  /-- The number of the process. -/
  pid : Nat
  /-- The number of the process that called it. -/
  parent : Nat
  deriving DecidableEq, Repr

def Invocation.here (invocation : Invocation) : String := invocation.viewer.directory.path

/-- How a program is called. -/
structure Call extends Invocation where
  /-- The path of its file, if that is not to be searched for. -/
  path : Option String := none
  /-- Whether a file that cannot be started is taken for a script. -/
  scripted : Bool := false
  deriving DecidableEq, Repr

/-- Finds the behaviour of a program by the way it is called. -/
abbrev Starter := Call → FileSystem → Except Failure Program

end PipeShell
