import PipeShell.System.Resolve

/-! # Open files

Opening a file for reading or writing, creating it where it is missing, and
reading and writing through what was opened. An open file knows its own
position; whoever shares it shares the position. In append mode every write goes
to the end of the file instead. -/

set_option autoImplicit false

namespace PipeShell.System

/-- An open file. It stays open when its names go away. -/
structure OpenFile where
  node : Node
  /-- Where the next read or write takes place. -/
  offset : Nat := 0
  /-- Whether every write goes to the end. -/
  append : Bool := false
  /-- Whether it was opened for reading. -/
  readable : Bool := true
  /-- Whether it was opened for writing. -/
  writable : Bool := true
  deriving DecidableEq, Repr

def OpenFile.null : OpenFile := { node := .device .null }

/-- How a file is opened for writing. -/
inductive WriteMode where
  /-- The old content goes away. -/
  | truncate
  /-- Writes are added to the old content. -/
  | append
  /-- Writes replace what is there. -/
  | update
  deriving DecidableEq, Repr

def OpenFile.ofMode (mode : WriteMode) (node : Node) : OpenFile :=
  { node, append := mode = .append, readable := mode = .update }

/-- The content with `data` written at `offset`; zero bytes fill a gap in
front. -/
def overwrite (content : Bytes) (offset : Nat) (data : Bytes) : Bytes :=
  content.take offset ++ List.replicate (offset - content.length) 0 ++ data ++
    content.drop (offset + data.length)

namespace FileSystem

def newFile (viewer : Viewer) : Attributes := ⟨0o666 - (0o666 &&& viewer.mask), viewer.user.number⟩

def newDirectory (viewer : Viewer) : Attributes := ⟨0o777 - (0o777 &&& viewer.mask), viewer.user.number⟩

/-- Whether the user may add or remove names in a directory. -/
def mayChange (files : FileSystem) (viewer : Viewer) (directory : Location) : Bool :=
  match files.get? directory with
  | some (.directory attributes) =>
    attributes.allows viewer.user .write && attributes.admits viewer.user
  | _ => false

/-- Opens a file for reading. A directory can be opened too; it is reading from
it that fails. -/
def openRead (files : FileSystem) (viewer : Viewer) (path : String) : Except Failure OpenFile := do
  let (_, node) ← files.stat viewer path
  if (files.attributesOf node).allows viewer.user .read then .ok { node, writable := false }
  else .error (.os .accessDenied)

/-- The file system in which a node that is opened for writing has lost what it
is to lose. -/
def prepare (files : FileSystem) (mode : WriteMode) : Node → FileSystem
  | .file number =>
    match mode, files.stored[number]? with
    | .truncate, some file => files.setFile number { file with content := [] }
    | _, _ => files
  | _ => files

/-- Opens a file for writing and creates it if only its name is missing. A path
that ends with a slash cannot name a file to write. -/
def openWrite (files : FileSystem) (viewer : Viewer) (mode : WriteMode) (path : String) :
    Except Failure (FileSystem × OpenFile) := do
  checkPath path
  let found ← files.follow viewer .create path (Path.names path)
  match found.node with
  | none =>
    if files.mayChange viewer found.location.dropLast then
      .ok (files.create found.location ⟨newFile viewer, []⟩,
        .ofMode mode (.file files.stored.length))
    else .error (.os .accessDenied)
  | some (.directory _) => .error (.os .isDirectory)
  | some node =>
    if (files.attributesOf node).allows viewer.user .write then
      .ok (files.prepare mode node, .ofMode mode node)
    else .error (.os .accessDenied)

/-- The bytes of an open file from its position on, if it holds any. -/
def remaining (files : FileSystem) (file : OpenFile) : Bytes :=
  ((files.fileOf? file.node).elim [] File.content).drop file.offset

/-- Reads at most `limit` bytes. No bytes mean the end of the file. -/
def read (files : FileSystem) (file : OpenFile) (limit : Nat) : Except Errno (Bytes × OpenFile) :=
  if !file.readable then .error .badDescriptor
  else
    match file.node with
    | .file _ =>
      let data := (files.remaining file).take limit
      .ok (data, { file with offset := file.offset + data.length })
    | .directory _ => .error .isDirectory
    | .device .null => .ok ([], file)
    | .device _ => .ok (List.replicate limit 0, file)
    | _ => .ok ([], file)

def write (files : FileSystem) (file : OpenFile) (data : Bytes) : Except Errno (FileSystem × OpenFile) :=
  if !file.writable then .error .badDescriptor
  else
    match file.node with
    | .file number =>
      match files.stored[number]? with
      | none => .ok (files, file)
      | some stored =>
        if data.isEmpty then .ok (files, file)
        else
          let offset := if file.append then stored.content.length else file.offset
          .ok (files.setFile number { stored with content := overwrite stored.content offset data },
            { file with offset := offset + data.length })
    | .directory _ => .error .isDirectory
    | .device .full => if data.isEmpty then .ok (files, file) else .error .noSpace
    | _ => .ok (files, { file with offset := file.offset + data.length })

def readToEnd (files : FileSystem) (file : OpenFile) : Except Errno Bytes :=
  match file.node with
  | .directory _ => .error .isDirectory
  | _ => .ok (files.remaining file)

end FileSystem

end PipeShell.System
