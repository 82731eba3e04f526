import PipeShell.Machine

/-! # The program

A session on a machine of its own: the files are those of a fresh machine, the
input is the program's own, and what was printed and complained about is written
when the session is over. -/

set_option autoImplicit false

namespace PipeShell.Main

open PipeShell.System

/-- The variables that the program takes over from its own environment. -/
def names : List String :=
  ["HOME", "PATH", "TERM", "CLICOLOR_FORCE", "MINISH_THEME", "MINISH_EDITOR", "MINISH_HISTORY",
    "MINISH_LOG_LEVEL", "MINISH_LOG_DIR"]

/-- The home directory of the machine's only account. -/
def account : Option String := some "/root"

/-- The machine has no clock: every session begins at the same time. -/
def stamp : LogStamp := ⟨2, "1970-01-01", "00:00:00"⟩

partial def readAll (stream : IO.FS.Stream) (data : ByteArray) : IO ByteArray := do
  let block ← stream.read 65536
  if block.isEmpty then return data else readAll stream (data ++ block)

def readEnvironment : IO Environment :=
  names.foldlM (fun environment name => do
    match ← IO.getEnv name with
    | some value => return environment.set name value
    | none => return environment) .empty

def run : IO UInt32 := do
  let input ← readAll (← IO.getStdin) .empty
  let environment ← readEnvironment
  let (files, input) := Host.withInput (Host.freshFiles Host.programNames) (some input.toList)
  let viewer : Viewer := { user := 0, directory := ["root"] }
  let (status, machine) := Machine.session files viewer environment account input stamp
  let stdout ← IO.getStdout
  stdout.write ⟨machine.output.toList.toArray⟩
  stdout.flush
  (← IO.getStderr).write ⟨machine.complaints.toList.toArray⟩
  match status with
  | .code code => return code.toUInt32
  | .signal number => return (128 + number).toUInt32

end PipeShell.Main

def main : IO UInt32 := PipeShell.Main.run
