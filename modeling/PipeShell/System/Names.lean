import PipeShell.System.Directories

/-! # Changing names

A name in a directory can be removed, moved and added. What stands in the way is
found in a fixed order: first where the name should be, then what is there, then
whether the directory may be changed. -/

set_option autoImplicit false

namespace PipeShell.System

/-- Where a path leads when its last name is taken as it is. -/
structure Place where
  location : Location
  node : Option Node
  /-- A slash stands behind the name. -/
  slashed : Bool
  /-- The last name, unless there is none. -/
  name : Option String
  deriving DecidableEq, Repr

namespace Place

/-- Whether the last name is that of an entry, and neither `.` nor `..`. -/
def isEntry (place : Place) : Bool := place.name.any fun name => name != "." && name != ".."

def isDirectory (place : Place) : Bool := place.node.any Node.isDirectory

end Place

namespace FileSystem

def place (files : FileSystem) (viewer : Viewer) (path : String) : Except Failure Place := do
  checkPath path
  let names := (Path.pieces path).filter (· != "")
  let found ← files.follow viewer .keep path names
  return { location := found.location, node := found.node, slashed := Path.endsWithSlash path, name := names.getLast? }

/-- What a path leads to; a link at its end is followed or taken as it is. -/
def examine (files : FileSystem) (viewer : Viewer) (follows : Bool) (path : String) : Except Failure (Location × Node) := do
  let found ← files.resolve viewer (if follows then .follow else .keep) path
  match found.node with
  | some node => return (found.location, node)
  | none => .error (.os .noEntry)

def sameNode (a b : Location × Node) : Bool :=
  match a.2, b.2 with
  | .file number, .file number' => number == number'
  | _, _ => a.1 == b.1

/-- The path of the directory of a path, as its text tells. -/
def directoryPath (path : String) : String :=
  let front := ((path.toList.reverse.dropWhile (· == '/')).dropWhile (· != '/'))
  let parent := String.ofList (front.dropWhile (· == '/')).reverse
  if !parent.isEmpty then parent else if front.isEmpty && !Path.isAbsolute path then "." else "/"

/-- Whether two paths name one entry of one directory. A directory that is reached through
a link does not count as the directory itself. -/
def sameEntry (files : FileSystem) (viewer : Viewer) (a b : String) : Bool :=
  Path.basename a == Path.basename b &&
    (match files.examine viewer false (directoryPath a), files.examine viewer false (directoryPath b) with
      | .ok a, .ok b => sameNode a b
      | _, _ => false)

def nameCount (files : FileSystem) (node : Node) : Nat :=
  match node with
  | .file number => (files.entries.filter fun entry => entry.2 == .file number).length
  | _ => 1

/-- Fails unless the names of a directory may be changed. -/
def checkChange (files : FileSystem) (viewer : Viewer) (directory : Location) : Except Failure Unit :=
  if files.mayChange viewer directory then .ok () else .error (.os .accessDenied)

/-- Removes a name that is not that of a directory. -/
def unlink (files : FileSystem) (viewer : Viewer) (path : String) : Except Failure FileSystem := do
  let place ← files.place viewer path
  if !place.isEntry then .error (.os .isDirectory)
  else
    match place.node with
    | none => .error (.os .noEntry)
    | some node =>
      if place.slashed then .error (.os (if node.isDirectory then .isDirectory else .notDirectory))
      else do
        files.checkChange viewer place.location.dropLast
        if node.isDirectory then .error (.os .isDirectory) else return files.erase place.location

def removeDirectory (files : FileSystem) (viewer : Viewer) (path : String) : Except Failure FileSystem := do
  let place ← files.place viewer path
  match place.name, place.node with
  | none, _ => .error (.os .busy)
  | some "..", _ => .error (.os .notEmpty)
  | some ".", _ => .error (.os .invalid)
  | _, none => .error (.os .noEntry)
  | _, some node => do
    files.checkChange viewer place.location.dropLast
    if !node.isDirectory then .error (.os .notDirectory)
    else if !(files.children place.location).isEmpty then .error (.os .notEmpty)
    else return files.erase place.location

/-- Everything below a location and the location itself, moved elsewhere. -/
def moveTree (files : FileSystem) (source target : Location) : FileSystem :=
  let files := files.eraseTree target
  { files with entries := files.entries.map fun (location, node) =>
      if source.isPrefixOf location then (target ++ location.drop source.length, node) else (location, node) }

/-- Moves what a path names to another path. What is there goes away, unless it is to
be kept. -/
def rename (files : FileSystem) (viewer : Viewer) (keepOld : Bool) (source target : String) :
    Except Failure FileSystem := do
  let origin ← files.place viewer source
  let goal ← files.place viewer target
  if !origin.isEntry then .error (.os .busy)
  else if !goal.isEntry then .error (.os (if keepOld then .alreadyExists else .busy))
  else
    match origin.node with
    | none => .error (.os .noEntry)
    | some node =>
      if keepOld && goal.node.isSome then .error (.os .alreadyExists)
      else if !node.isDirectory && (origin.slashed || goal.slashed) then .error (.os .notDirectory)
      else if origin.location.isPrefixOf goal.location && origin.location != goal.location then .error (.os .invalid)
      else if goal.location.isPrefixOf origin.location && origin.location != goal.location then .error (.os .notEmpty)
      else
        let isSame := goal.node.any fun other => sameNode (origin.location, node) (goal.location, other)
        if isSame then return files
        else do
          files.checkChange viewer origin.location.dropLast
          files.checkChange viewer goal.location.dropLast
          if goal.node.isSome && node.isDirectory && !goal.isDirectory then .error (.os .notDirectory)
          else if !node.isDirectory && goal.isDirectory then .error (.os .isDirectory)
          else if goal.isDirectory && !(files.children goal.location).isEmpty then .error (.os .notEmpty)
          else return files.moveTree origin.location goal.location

/-- The location at which a name is added; what has that name already may go away if it
is to be replaced. -/
def newPlace (files : FileSystem) (viewer : Viewer) (replaces : Bool) (path : String) : Except Failure Location := do
  let place ← files.place viewer path
  let isFree := place.node.isNone || (replaces && !place.isDirectory && !place.slashed)
  if !place.isEntry || !isFree then .error (.os .alreadyExists)
  else if place.slashed then .error (.os .noEntry)
  else do
    files.checkChange viewer place.location.dropLast
    return place.location

def link (files : FileSystem) (viewer : Viewer) (follows replaces : Bool) (source target : String) : Except Failure FileSystem := do
  let (_, node) ← files.examine viewer follows source
  let location ← files.newPlace viewer replaces target
  match node with
  | .directory _ => .error (.os .notPermitted)
  | .program _ | .device _ | .pipe _ => .error (.os .otherDevice)
  | node => return files.put location node

def addLink (files : FileSystem) (viewer : Viewer) (replaces : Bool) (target path : String) : Except Failure FileSystem := do
  if target.isEmpty then .error (.os .noEntry)
  else do
    let location ← files.newPlace viewer replaces path
    return files.put location (.link target)

end FileSystem

end PipeShell.System
