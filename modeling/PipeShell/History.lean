import PipeShell.DotEnv
import PipeShell.System.Directories

/-! # History

The lines entered so far. A line is left out when it is empty, begins with a
blank, or repeats the line before it. The history is kept in a file whose first
line names its format; in that format backslashes and line feeds are written
with a backslash in front. -/

set_option autoImplicit false

namespace PipeShell

open PipeShell.System

/-- The history of a session. -/
structure History where
  /-- The lines, the oldest first. -/
  entries : List String := []
  /-- How many lines were added since the file was read. -/
  fresh : Nat := 0
  deriving DecidableEq, Repr

namespace History

def limit : Nat := 1000

def skips (history : History) (line : String) : Bool :=
  match line.toList with
  | [] => true
  | first :: _ => Text.isBlank first || history.entries.getLast? == some line

/-- The history with one more line, unless the line is left out. The oldest line
makes room for it. -/
def add (history : History) (line : String) : History :=
  if history.skips line then history
  else
    let kept := history.entries.drop (history.entries.length + 1 - limit)
    let entries := kept ++ [line]
    { entries, fresh := min (history.fresh + 1) entries.length }

def version : String := "#V2"

def escape (line : String) : String :=
  String.ofList (line.toList.flatMap fun c =>
    if c = '\n' then ['\\', 'n'] else if c = '\\' then ['\\', '\\'] else [c])

/-- The line that was written; nothing if a backslash stands where none can have
been written. -/
def unescape : List Char → Option (List Char)
  | [] => some []
  | '\\' :: 'n' :: rest => (unescape rest).map ('\n' :: ·)
  | '\\' :: '\\' :: rest => (unescape rest).map ('\\' :: ·)
  | c :: rest => if c = '\\' then none else (unescape rest).map (c :: ·)

def fileText (history : History) : String :=
  version ++ "\n" ++ String.join (history.entries.map fun line => escape line ++ "\n")

/-- What reading a history file came to. -/
structure Loaded where
  history : History
  /-- Why the file could not be read to its end. -/
  failure : Option Failure
  /-- The lines whose escapes make no sense. They are taken as they are. -/
  odd : List String

def addLines (escaped : Bool) (history : History) (odd : List String) : List Bytes → Loaded
  | [] => ⟨{ history with fresh := 0 }, none, odd.reverse⟩
  | line :: rest =>
    match Text.decode? line with
    | none => ⟨history, some .notUtf8, odd.reverse⟩
    | some text =>
      if text.isEmpty then addLines escaped history odd rest
      else if !escaped then addLines escaped (history.add (String.ofList text)) odd rest
      else
        match unescape text with
        | some plain => addLines escaped (history.add (String.ofList plain)) odd rest
        | none => addLines escaped (history.add (String.ofList text)) (String.ofList text :: odd) rest

/-- Reads the content of a history file. Without the version line, every line
stands for itself, the first one too. -/
def ofBytes (data : Bytes) : Loaded :=
  match DotEnv.splitLines data with
  | [] => ⟨{}, none, []⟩
  | first :: rest =>
    if first == bytesOf version then addLines true {} [] rest
    else addLines false {} [] (first :: rest)

def load (files : FileSystem) (viewer : Viewer) (path : String) : Loaded :=
  match files.openRead viewer path with
  | .error failure => ⟨{}, some failure, []⟩
  | .ok file =>
    match files.readToEnd file with
    | .ok data => ofBytes data
    | .error e => ⟨{}, some (.os e), []⟩

/-- Writes the history to a file, if there is anything new in it. -/
def save (history : History) (files : FileSystem) (viewer : Viewer) (path : String) : Except Failure FileSystem :=
  if history.entries.isEmpty || history.fresh = 0 then .ok files
  else files.writeFile viewer path (bytesOf history.fileText)

end History

end PipeShell
