import PipeShell.Text.Utf8
import PipeShell.System.Failure
import PipeShell.System.Path

/-! # File systems

A file system assigns to locations what is found there: files, directories,
symbolic links, devices and the programs that come with the system. A location
is a list of names from the root, so it holds no `.`, no `..` and crosses no
link; paths become locations in `PipeShell.System.Resolve`. What a file holds is
stored apart from its names, so that several names may lead to one file and an
open file outlives its last name. Nothing here assumes that the parents of a
location are directories: looking a path up walks through every one of them. -/

set_option autoImplicit false

namespace PipeShell.System

abbrev Location := List String

def Location.path (location : Location) : String :=
  "/" ++ String.intercalate "/" location

/-- Whom a node belongs to and what it allows. -/
structure Attributes where
  /-- The permission bits, as in octal notation. -/
  mode : Nat
  /-- The number of the owning user. -/
  owner : Nat
  deriving DecidableEq, Repr

/-- What may be asked of a node. -/
inductive Permission where
  | read
  | write
  | execute
  deriving DecidableEq, Repr

def Permission.bit : Permission → Nat
  | .read => 4
  | .write => 2
  | .execute => 1

/-- Whoever acts, by number. Permissions do not hold a privileged user back, except from running a
file that nobody may run. The number tells nothing about that: user 0 can be without privileges. -/
structure User where
  number : Nat
  privileged : Bool := false
  deriving DecidableEq, Repr

instance (number : Nat) : OfNat User number := ⟨{ number }⟩

/-- Whether the user may do it. Users are in no groups: whoever is not the owner is a stranger. -/
def Attributes.allows (attributes : Attributes) (user : User) (permission : Permission) : Bool :=
  if user.privileged then permission != .execute || attributes.mode &&& 0o111 != 0
  else if user.number = attributes.owner then (attributes.mode / 64) &&& permission.bit != 0
  else attributes.mode &&& permission.bit != 0

/-- Whether the user may look names up in a directory with these attributes. -/
def Attributes.admits (attributes : Attributes) (user : User) : Bool :=
  user.privileged || attributes.allows user .execute

structure File where
  attributes : Attributes
  content : Bytes
  deriving DecidableEq, Repr

inductive Device where
  /-- Swallows what is written and is empty to read. -/
  | null
  /-- Swallows what is written and gives zero bytes without end. -/
  | zero
  /-- Refuses every write and gives zero bytes without end. -/
  | full
  deriving DecidableEq, Repr

/-- What is found at a location. -/
inductive Node where
  /-- A file, by its number in the store. -/
  | file (number : Nat)
  | directory (attributes : Attributes)
  | link (target : String)
  | device (device : Device)
  /-- A program of the system, known by its name. -/
  | program (name : String)
  /-- The end of a pipe that a descriptor of the process leads to which looks. -/
  | pipe (descriptor : Nat)
  deriving DecidableEq, Repr

namespace Node

def isDirectory : Node → Bool
  | .directory _ => true
  | _ => false

def isFile : Node → Bool
  | .file _ => true
  | .program _ => true
  | _ => false

end Node

/-- Everything that is stored, each location at most once. -/
structure FileSystem where
  entries : List (Location × Node)
  /-- The files by their numbers. -/
  stored : List File := []
  /-- What the descriptors of the process lead to which looks. -/
  descriptors : List (Nat × Node) := []
  deriving Repr

namespace FileSystem

def empty : FileSystem := { entries := [([], .directory ⟨0o755, 0⟩)] }

def get? (files : FileSystem) (location : Location) : Option Node :=
  files.entries.lookup location

def fileOf? (files : FileSystem) : Node → Option File
  | .file number => files.stored[number]?
  | _ => none

def file? (files : FileSystem) (location : Location) : Option File :=
  (files.get? location).bind files.fileOf?

/-- The attributes of a node. Links allow everything, devices may be read and
written by everybody, and programs run by everybody. -/
def attributesOf (files : FileSystem) : Node → Attributes
  | .file number => (files.stored[number]?.map File.attributes).getD ⟨0, 0⟩
  | .directory attributes => attributes
  | .link _ => ⟨0o777, 0⟩
  | .device _ => ⟨0o666, 0⟩
  | .program _ => ⟨0o755, 0⟩
  | .pipe _ => ⟨0o600, 0⟩

def descriptorDirectory : Location := ["proc", "self", "fd"]

/-- What a process finds for the name of a descriptor: a link to its file as long as that
has a name. If it is not to be followed, everything looks like a link. -/
def descriptor? (files : FileSystem) (follows : Bool) (name : String) : Option Node :=
  (files.descriptors.find? fun (descriptor, _) => toString descriptor == name).map fun (_, node) =>
    let named := if node.isDirectory then none else files.entries.find? (·.2 == node)
    match named with
    | some (location, _) => .link location.path
    | none => if follows then node else .link "/ (deleted)"

def find? (files : FileSystem) (follows : Bool) (directory : Location) (name : String) : Option Node :=
  if directory == descriptorDirectory then files.descriptor? follows name else files.get? (directory ++ [name])

/-- Replaces what the location holds in a list of entries, or adds it at the
end. -/
def putEntry (location : Location) (node : Node) : List (Location × Node) → List (Location × Node)
  | [] => [(location, node)]
  | entry :: rest =>
    if location == entry.1 then (location, node) :: rest else entry :: putEntry location node rest

/-- Gives a node a location in place of what was there. -/
def put (files : FileSystem) (location : Location) (node : Node) : FileSystem :=
  { files with entries := putEntry location node files.entries }

def addFile (files : FileSystem) (file : File) : FileSystem := { files with stored := files.stored ++ [file] }

def create (files : FileSystem) (location : Location) (file : File) : FileSystem :=
  { files.put location (.file files.stored.length) with stored := files.stored ++ [file] }

/-- Replaces a stored file, whatever its names are. -/
def setFile (files : FileSystem) (number : Nat) (file : File) : FileSystem :=
  { files with stored := files.stored.set number file }

def erase (files : FileSystem) (location : Location) : FileSystem :=
  { files with entries := files.entries.filter (·.1 != location) }

/-- The locations right below a location, with what is found there. -/
def children (files : FileSystem) (location : Location) : List (String × Node) :=
  files.entries.filterMap fun (place, node) =>
    match place.getLast? with
    | some name => if place.dropLast == location then some (name, node) else none
    | none => none

/-- The entries below a location, relative to it, in no particular order. -/
def below (files : FileSystem) (location : Location) : List (Location × Node) :=
  files.entries.filterMap fun (place, node) =>
    if location.isPrefixOf place && location.length < place.length then
      some (place.drop location.length, node)
    else none

theorem lookup_putEntry (location place : Location) (node : Node) (entries : List (Location × Node)) :
    (putEntry location node entries).lookup place =
      if place = location then some node else entries.lookup place := by
  induction entries with
  | nil =>
    by_cases same : place = location
    · simp [putEntry, same]
    · have different : (place == location) = false := by simpa using same
      simp [putEntry, List.lookup_cons, same, different]
  | cons entry rest ih =>
    obtain ⟨key, value⟩ := entry
    by_cases replaced : location = key
    · subst replaced
      by_cases same : place = location
      · simp [putEntry, same]
      · have different : (place == location) = false := by simpa using same
        simp [putEntry, List.lookup_cons, same, different]
    · by_cases same : place = key
      · have distinct : place ≠ location := fun equal => replaced (equal.symm.trans same)
        subst same
        simp [putEntry, replaced, distinct]
      · have different : (place == key) = false := by simpa using same
        simp [putEntry, replaced, List.lookup_cons, different, ih]

/-- A node changes what is found at its own location and nowhere else. -/
@[simp] theorem get?_put (files : FileSystem) (location place : Location) (node : Node) :
    (files.put location node).get? place = if place = location then some node else files.get? place :=
  lookup_putEntry location place node files.entries

@[simp] theorem stored_put (files : FileSystem) (location : Location) (node : Node) :
    (files.put location node).stored = files.stored := rfl

@[simp] theorem get?_setFile (files : FileSystem) (number : Nat) (file : File) (place : Location) :
    (files.setFile number file).get? place = files.get? place := rfl

/-- A new file takes a number of its own. -/
@[simp] theorem get?_create (files : FileSystem) (location place : Location) (file : File) :
    (files.create location file).get? place =
      if place = location then some (.file files.stored.length) else files.get? place :=
  get?_put files location place (.file files.stored.length)

end FileSystem

end PipeShell.System
