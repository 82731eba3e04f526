import PipeShell.Script.Builtin.Basic

/-! # Ways to end a command

A command may end in the usual way, leave loops or functions, or end the script.
Whoever carries out a command says beforehand what follows in each case. -/

set_option autoImplicit false

namespace PipeShell.Script

open PipeShell.System

/-- How a script goes on behind a command, whichever way it ends. -/
structure Exits where
  next : Next
  /-- How many loops there are to leave. -/
  loops : Nat := 0
  /-- Leaves a number of loops, or goes on with the last of them. -/
  leave : Bool → Nat → Next
  back : Next
  quit : Nat → Next
  /-- Goes on after an error that was told and that ends the script. -/
  fail : Next

namespace Exits

def ofProcess (quit : Nat → Next) : Exits where
  next := fun state => quit state.status state
  leave := fun _ _ state => quit state.status state
  back := fun state => quit state.status state
  quit := quit
  fail := fun state => quit 2 state

def within (exits : Exits) (tidy : Next → Next) : Exits where
  next := tidy exits.next
  loops := exits.loops
  leave := fun again count => tidy (exits.leave again count)
  back := tidy exits.back
  quit := fun status => tidy (exits.quit status)
  fail := tidy exits.fail

end Exits

def changing (change : State → State) (next : Next) : Next := fun state => next (change state)

def launchFailure (name : String) (failure : Failure) : String × Nat :=
  match failure with
  | .os e =>
    let text := if e = .noEntry || e = .notDirectory then "not found" else e.text
    let missing := e = .noEntry || e = .notDirectory || e = .tooManyLinks || e = .nameTooLong
    (name ++ ": " ++ text, if missing then 127 else 126)
  | failure => (name ++ ": " ++ failure.message, 126)

def fileText? (files : FileSystem) (viewer : Viewer) (path : String) : Except Failure String :=
  match files.openRead viewer path with
  | .error failure => .error failure
  | .ok file =>
    match files.readToEnd file with
    | .ok data => .ok (rawText (data.filter (· != 0)))
    | .error e => .error (.os e)

end PipeShell.Script
