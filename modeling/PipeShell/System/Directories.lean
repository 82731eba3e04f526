import PipeShell.System.OpenFile

/-! # Making and removing names

Directories with all their parents, removal of files and of whole directories,
and writing a file in one go. -/

set_option autoImplicit false

namespace PipeShell.System

/-- The path and its parents, the path first. Each parent has fewer pieces, so
the number of pieces bounds their number. -/
def Path.lineage (path : String) : List String :=
  climb (pieces path).length path
where
  climb : Nat → String → List String
    | 0, path => [path]
    | bound + 1, path =>
      match parent? path with
      | none => [path]
      | some parent => path :: climb bound parent

namespace FileSystem

def makeDirectory (files : FileSystem) (viewer : Viewer) (path : String) : Except Failure FileSystem := do
  checkPath path
  let found ← files.follow viewer .keep path ((Path.pieces path).filter (· != ""))
  match found.node with
  | some _ => .error (.os .alreadyExists)
  | none =>
    if files.mayChange viewer found.location.dropLast then
      .ok (files.put found.location (.directory (newDirectory viewer)))
    else .error (.os .accessDenied)

/-- Makes the first directory of a lineage after those that follow it, as far as
they are missing. -/
def makeLineage (files : FileSystem) (viewer : Viewer) : List String → Except Failure FileSystem
  | [] => .error (.described .uncategorized "failed to create whole tree")
  | path :: parents =>
    if path.isEmpty then .ok files
    else
      match files.makeDirectory viewer path with
      | .ok made => .ok made
      | .error e =>
        if e.kindOf = .notFound then
          match makeLineage files viewer parents with
          | .error e => .error e
          | .ok grown =>
            match grown.makeDirectory viewer path with
            | .ok made => .ok made
            | .error e => if grown.isDirectory viewer path then .ok grown else .error e
        else if files.isDirectory viewer path then .ok files
        else .error e

def makeDirectories (files : FileSystem) (viewer : Viewer) (path : String) : Except Failure FileSystem :=
  files.makeLineage viewer (Path.lineage path)

def eraseTree (files : FileSystem) (location : Location) : FileSystem :=
  { files with entries := files.entries.filter fun entry => !location.isPrefixOf entry.1 }

/-- Creates or empties a file and writes the bytes into it. -/
def writeFile (files : FileSystem) (viewer : Viewer) (path : String) (data : Bytes) :
    Except Failure FileSystem := do
  let (opened, file) ← files.openWrite viewer .truncate path
  match opened.write file data with
  | .ok (written, _) => .ok written
  | .error e => .error (.os e)

end FileSystem

end PipeShell.System
