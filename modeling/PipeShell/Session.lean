import PipeShell.Log
import PipeShell.System.Resolve

/-! # Sessions

What a session remembers from one line to the next is the directory that
pipelines run in. Changing it either leads to an existing directory, remembered
by its canonical path, or changes nothing. -/

set_option autoImplicit false

namespace PipeShell

open PipeShell.System

/-- The state of a session. -/
structure Session where
  /-- The directory that pipelines run in. -/
  directory : String
  deriving DecidableEq, Repr

/-- The canonical path of the directory that `target` names from `directory`; without a target,
of the home directory, or of what `~` names if there is none. -/
def resolveDirectory (files : FileSystem) (viewer : Viewer) (home : Option String) (directory : String)
    (target : Option String) : Except Failure String := do
  let path :=
    match target with
    | none => Path.expandTilde home "~"
    | some target => Path.join directory (Path.expandTilde home target)
  let location ← files.canonical viewer path
  if files.isDirectory viewer location.path then .ok location.path
  else .error (.described .notFound ("not a directory: " ++ location.path))

namespace Session

/-- The session after a change of directory that succeeded; it stays as it is
when the change fails. -/
def changeDirectory (session : Session) (files : FileSystem) (viewer : Viewer) (home : Option String)
    (target : Option String) : Except Failure Session :=
  match resolveDirectory files viewer home session.directory target with
  | .ok directory => .ok { session with directory }
  | .error failure => .error failure

def moveRecord (before after : Session) : LogRecord :=
  ⟨.debug, "cwd " ++ before.directory ++ " -> " ++ after.directory⟩

end Session

end PipeShell
