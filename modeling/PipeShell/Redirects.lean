import PipeShell.ExecError
import PipeShell.Line
import PipeShell.Log
import PipeShell.System.OpenFile

/-! # Redirection targets

The files at the ends of a line are all checked before any of them is opened, so
that a target that fails its check leaves every file as it was. Opening can fail
all the same, and what was opened before then stays created or emptied.

Output and errors that name the same file share one open file, so neither
overwrites the other; how that file is opened is for the output operator to
say. A descriptor for the second use is taken to be available: of the failures to open
a file only those that depend on the file are described, not that a process has too
many of them. -/

set_option autoImplicit false

namespace PipeShell

open PipeShell.System

/-- A file that a line names. -/
structure Target where
  /-- The path as the line gives it. -/
  written : String
  /-- The path from the directory the line runs in. -/
  path : String
  deriving DecidableEq, Repr

/-- The target of a path: a leading `~` is the home directory, and a relative
path starts from `directory`. -/
def Target.of (home : Option String) (directory path : String) : Target :=
  ⟨path, Path.join directory (Path.expandTilde home path)⟩

/-- The three ends of a line. -/
structure Targets where
  input : Option Target
  output : Option (Target × WriteMode)
  error : Option (Target × WriteMode)
  deriving DecidableEq, Repr

def OutputTarget.mode (target : OutputTarget) : WriteMode :=
  if target.append then .append else .truncate

def Line.targets (line : Line) (home : Option String) (directory : String) : Targets where
  input := line.input.map (Target.of home directory)
  output := line.output.map fun target => (Target.of home directory target.path, target.mode)
  error := line.error.map fun target => (Target.of home directory target.path, target.mode)

/-- Where the errors of a line go. -/
inductive ErrorEnd where
  /-- To a file of their own. -/
  | own (file : OpenFile)
  /-- To the open file that takes the output. -/
  | shared
  deriving DecidableEq, Repr

/-- The open files at the ends of a line. -/
structure Redirects where
  input : Option OpenFile := none
  output : Option OpenFile := none
  error : Option ErrorEnd := none
  deriving DecidableEq, Repr

namespace Redirects

/-- Writes to the output end. Nothing happens when the line has none. -/
def writeOutput (redirects : Redirects) (files : FileSystem) (data : Bytes) : FileSystem × Redirects :=
  match redirects.output with
  | none => (files, redirects)
  | some file =>
    match files.write file data with
    | .ok (files, file) => (files, { redirects with output := some file })
    | .error _ => (files, redirects)

/-- Writes to the error end. Nothing happens when the line has none. -/
def writeError (redirects : Redirects) (files : FileSystem) (data : Bytes) : FileSystem × Redirects :=
  match redirects.error with
  | none => (files, redirects)
  | some .shared => redirects.writeOutput files data
  | some (.own file) =>
    match files.write file data with
    | .ok (files, file) => (files, { redirects with error := some (.own file) })
    | .error _ => (files, redirects)

end Redirects

/-- A target that failed its check. -/
structure Unfit where
  error : ValidationError
  /-- The path that was looked at. -/
  path : String
  deriving DecidableEq, Repr

namespace Unfit

/-- What is wrong with the target, in the words of the log. -/
def complaint (unfit : Unfit) : String :=
  match unfit.error with
  | .inputFileMissing _ => "input redirect target missing"
  | .inputFileUnreadable _ => "input redirect target unreadable"
  | .outputFileUnwritable _ => "output redirect target unwritable"
  | .errorFileUnwritable _ => "error redirect target unwritable"

def record (unfit : Unfit) : LogRecord :=
  ⟨.warn, unfit.complaint ++ ": " ++ unfit.path⟩

end Unfit

namespace Targets

/-- A path is fit for writing when it leads to nothing, or to something other
than a directory that may be written. -/
def isWritable (files : FileSystem) (viewer : Viewer) (path : String) : Bool :=
  !files.isDirectory viewer path &&
    (!files.hasPath viewer path || files.mayAccess viewer .write path)

/-- Checks the input: it must exist and be readable. Devices and directories
pass. -/
def checkInput (files : FileSystem) (viewer : Viewer) (target : Target) : Option Unfit :=
  if !files.hasPath viewer target.path then some ⟨.inputFileMissing target.written, target.path⟩
  else if !files.mayAccess viewer .read target.path then
    some ⟨.inputFileUnreadable target.written, target.path⟩
  else none

/-- Checks an output. `complain` makes the error of the path. -/
def checkOutput (files : FileSystem) (viewer : Viewer) (complain : String → ValidationError)
    (target : Target × WriteMode) : Option Unfit :=
  if isWritable files viewer target.1.path then none
  else some ⟨complain target.1.written, target.1.path⟩

/-- The first target that fails its check: the input, then the output, then the
errors. -/
def unfit? (files : FileSystem) (viewer : Viewer) (targets : Targets) : Option Unfit :=
  (targets.input.bind (checkInput files viewer)).or <|
    (targets.output.bind (checkOutput files viewer .outputFileUnwritable)).or <|
      targets.error.bind (checkOutput files viewer .errorFileUnwritable)

/-- Whether two paths lead to the same place: as texts, or by where they
lead. -/
def sameFile (files : FileSystem) (viewer : Viewer) (a b : String) : Bool :=
  Path.same a b ||
    match files.canonical viewer a, files.canonical viewer b with
    | .ok a, .ok b => a == b
    | _, _ => false

def ioError (target : Target) (failure : Failure) : ExecError := .io target.written failure

def openInput (files : FileSystem) (viewer : Viewer) : Option Target → Except ExecError (Option OpenFile)
  | none => .ok none
  | some target =>
    match files.openRead viewer target.path with
    | .ok file => .ok (some file)
    | .error failure => .error (ioError target failure)

/-- Opens the output, with the file system it leaves. -/
def openOutput (files : FileSystem) (viewer : Viewer) :
    Option (Target × WriteMode) → Except ExecError (FileSystem × Option OpenFile)
  | none => .ok (files, none)
  | some (target, mode) =>
    match files.openWrite viewer mode target.path with
    | .ok (files, file) => .ok (files, some file)
    | .error failure => .error (ioError target failure)

/-- Whether the errors go to the open file of the output, after the output was
opened. -/
def sharesOutput (files : FileSystem) (viewer : Viewer) (targets : Targets) : Bool :=
  match targets.output, targets.error with
  | some (output, _), some (error, _) => sameFile files viewer output.path error.path
  | _, _ => false

/-- Opens the error end, with the file system it leaves. -/
def openError (files : FileSystem) (viewer : Viewer) (targets : Targets) :
    Except ExecError (FileSystem × Option ErrorEnd) :=
  if sharesOutput files viewer targets then .ok (files, some .shared)
  else
    match openOutput files viewer targets.error with
    | .ok (files, file) => .ok (files, file.map .own)
    | .error e => .error e

/-- Opens all targets: the input, then the output, then the errors. The file
system is the one after the last target that could be opened. -/
def openAll (files : FileSystem) (viewer : Viewer) (targets : Targets) :
    FileSystem × Except ExecError Redirects :=
  match openInput files viewer targets.input with
  | .error e => (files, .error e)
  | .ok input =>
    match openOutput files viewer targets.output with
    | .error e => (files, .error e)
    | .ok (files, output) =>
      match openError files viewer targets with
      | .error e => (files, .error e)
      | .ok (files, error) => (files, .ok { input, output, error })

end Targets

/-- Checks every redirection target of a line and then opens them all, with the
file system that this leaves. -/
def Line.openTargets (line : Line) (files : FileSystem) (viewer : Viewer) (home : Option String) (directory : String) :
    FileSystem × Except ExecError Redirects :=
  let targets := line.targets home directory
  match targets.unfit? files viewer with
  | some unfit => (files, .error (.validation unfit.error))
  | none => targets.openAll files viewer

end PipeShell
