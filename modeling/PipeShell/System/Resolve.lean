import PipeShell.System.FileSystem

/-! # Looking paths up

A path is followed name by name from the root, or from the directory of whoever
looks. Every name but the last must lead to a directory that may be searched;
links are followed, at most forty of them on one way. The last name may be
missing, which is how files come to be created. -/

set_option autoImplicit false

namespace PipeShell.System

/-- Who looks a path up, and from where relative paths start. -/
structure Viewer where
  user : User
  /-- The working directory. -/
  directory : Location
  /-- The permissions that are withheld from whatever is created. -/
  mask : Nat := 0o022
  deriving DecidableEq, Repr

/-- The greatest length of a name, in bytes. -/
def nameLimit : Nat := 255

/-- A path must be shorter than this, in bytes. -/
def pathLimit : Nat := 4096

/-- The number of links that may be followed on one way. -/
def linkLimit : Nat := 40

/-- The end of a way: where it leads, and what is there. -/
structure Found where
  location : Location
  /-- What is there; nothing when only the last name is missing. -/
  node : Option Node
  deriving DecidableEq, Repr

/-- The names to follow. A slash at the end becomes an empty name, which asks for
a directory. -/
def Path.names (path : String) : List String :=
  let names := (pieces path).filter (· != "")
  if endsWithSlash path && !names.isEmpty then names ++ [""] else names

def Path.origin (here : Location) (path : String) : Location :=
  if isAbsolute path then [] else here

/-- What is done about the last name of a path. -/
inductive LastName where
  /-- A link is followed. -/
  | follow
  /-- A link is taken as it is. -/
  | keep
  /-- A link is followed, and what is missing will be created as a file; so no
  slash may come after the name. -/
  | create
  deriving DecidableEq, Repr

namespace FileSystem

/-- Whether a name may be looked up in what is found at a location. The empty name behind a slash
at the end of a path asks for a directory only, which need not be open to the user. -/
def search (files : FileSystem) (user : User) (location : Location) (name : String) : Except Errno Unit :=
  match files.get? location with
  | some (.directory attributes) =>
    if name = "" || attributes.admits user then .ok () else .error .accessDenied
  | some _ => .error .notDirectory
  | none => .error .noEntry

/-- Follows names from a location. `links` is the number of links that may still
be followed. -/
def walk (files : FileSystem) (user : User) (last : LastName) (links : Nat) (here : Location)
    (names : List String) : Except Errno Found :=
  match names with
  | [] => .ok ⟨here, files.get? here⟩
  | name :: rest =>
    match files.search user here name with
    | .error e => .error e
    | .ok () =>
      if name = "" || name = "." then walk files user last links here rest
      else if name = ".." then walk files user last links here.dropLast rest
      else if last = .create && rest = [""] then .error .isDirectory
      else if nameLimit < name.utf8ByteSize then .error .nameTooLong
      else
        match files.find? (!rest.isEmpty || last != .keep) here name with
        | none => if rest.isEmpty then .ok ⟨here ++ [name], none⟩ else .error .noEntry
        | some (.link target) =>
          if rest.isEmpty && last = .keep then .ok ⟨here ++ [name], some (.link target)⟩
          else
            match links with
            | 0 => .error .tooManyLinks
            | links + 1 =>
              if target.isEmpty then .error .noEntry
              else walk files user last links (Path.origin here target) (Path.names target ++ rest)
        | some (.directory _) => walk files user last links (here ++ [name]) rest
        | some node => if rest.isEmpty then .ok ⟨here ++ [name], some node⟩ else .error .notDirectory
termination_by (links, names.length)

/-- What forbids a path before any name of it is looked at. -/
def checkPath (path : String) : Except Failure Unit :=
  if path.toList.contains '\x00' then .error .nulInPath
  else if path.isEmpty then .error (.os .noEntry)
  else if pathLimit ≤ path.utf8ByteSize then .error (.os .nameTooLong)
  else .ok ()

def follow (files : FileSystem) (viewer : Viewer) (last : LastName) (path : String) (names : List String) :
    Except Failure Found :=
  (files.walk viewer.user last linkLimit (Path.origin viewer.directory path) names).mapError .os

def resolve (files : FileSystem) (viewer : Viewer) (last : LastName) (path : String) : Except Failure Found := do
  checkPath path
  files.follow viewer last path (Path.names path)

def stat (files : FileSystem) (viewer : Viewer) (path : String) : Except Failure (Location × Node) := do
  let found ← files.resolve viewer .follow path
  match found.node with
  | some node => .ok (found.location, node)
  | none => .error (.os .noEntry)

/-- Whether a path leads to anything. A path that cannot be followed leads to
nothing. -/
def hasPath (files : FileSystem) (viewer : Viewer) (path : String) : Bool :=
  (files.stat viewer path).toBool

def isDirectory (files : FileSystem) (viewer : Viewer) (path : String) : Bool :=
  match files.stat viewer path with
  | .ok (_, node) => node.isDirectory
  | .error _ => false

/-- Whether the viewer may do something with what a path leads to. -/
def mayAccess (files : FileSystem) (viewer : Viewer) (permission : Permission) (path : String) : Bool :=
  match files.stat viewer path with
  | .ok (_, node) => (files.attributesOf node).allows viewer.user permission
  | .error _ => false

/-- The location a path leads to. The path itself may be of any length. -/
def canonical (files : FileSystem) (viewer : Viewer) (path : String) : Except Failure Location :=
  if path.toList.contains '\x00' then .error .nulInPath
  else if path.isEmpty then .error (.os .noEntry)
  else do
    let found ← files.follow viewer .follow path (Path.names path)
    match found.node with
    | some _ => .ok found.location
    | none => .error (.os .noEntry)

end FileSystem

end PipeShell.System
