import PipeShell.System.Names

/-! # Paths without links

Where a path leads when every link on the way is followed, though some of its parts may
be missing, and how one place is seen from another. -/

set_option autoImplicit false

namespace PipeShell.Utility

open PipeShell.System

/-- Which parts of a path may be missing when it is followed. -/
inductive MissingParts where
  | none
  | last
  | any
  deriving DecidableEq, Repr

structure PathManner where
  missing : MissingParts := .last
  keepsLinks : Bool := false
  deriving DecidableEq, Repr

def needsDirectory : List String → Bool
  | [] => false
  | [""] | ".." :: _ | ["."] => true
  | "." :: rest => needsDirectory rest
  | _ => false

def isLastName (rest : List String) : Bool := rest.isEmpty || rest == [""]

def nameFault? (files : FileSystem) (viewer : Viewer) (manner : PathManner) (location : Location) (rest : List String) :
    Option Failure :=
  let path := Location.path location
  let fault : Option Failure :=
    if needsDirectory rest then
      match files.stat viewer path with
      | .ok (_, node) => if node.isDirectory then Option.none else some (.os .notDirectory)
      | .error failure => some failure
    else if manner.keepsLinks then
      (if rest.isEmpty then
        match files.stat viewer path with
        | .ok _ => Option.none
        | .error failure => some failure
      else Option.none)
    else
      match files.examine viewer false path with
      | .ok _ => Option.none
      | .error failure => some failure
  if manner.missing = .any then Option.none
  else fault.filter fun failure => !(manner.missing = .last && failure = .os .noEntry && isLastName rest)

def linkPatience : Nat := 20

/-- Follows names from a location. `links` is the number of links that may still be
followed, and `seen` where links have been met with which names behind them. -/
def followNames (files : FileSystem) (viewer : Viewer) (manner : PathManner) (links : Nat) (seen : List (Location × List String))
    (here : Location) (names : List String) : Except Failure Location :=
  match names with
  | [] => .ok here
  | name :: rest =>
    if name = "" || name = "." then followNames files viewer manner links seen here rest
    else if name = ".." then followNames files viewer manner links seen here.dropLast rest
    else
      let location := here ++ [name]
      let target : Option String :=
        match files.examine viewer false (Location.path location) with
        | .ok (_, .link target) => if manner.keepsLinks then none else some target
        | _ => none
      match target, links with
      | none, links =>
        match nameFault? files viewer manner location rest with
        | some failure => .error failure
        | none => followNames files viewer manner links seen location rest
      | some _, 0 => .error (.os .tooManyLinks)
      | some target, links + 1 =>
        if seen.length < linkPatience || !seen.contains (here, name :: rest) then
          followNames files viewer manner links ((here, name :: rest) :: seen) (Path.origin here target) (Path.names target ++ rest)
        else if manner.missing = .any then followNames files viewer manner links seen location rest
        else .error (.os .tooManyLinks)
termination_by (links, names.length)

def linkBudget : Nat := 10000

/-- The location of a path all of whose links are followed, as far as there is something to
follow. -/
def canonicalPath (files : FileSystem) (viewer : Viewer) (manner : PathManner) (path : String) : Except Failure Location :=
  if path.isEmpty then .error (.os .noEntry)
  else followNames files viewer manner linkBudget [] (Path.origin viewer.directory path) (Path.names path)

def relativePath (base location : Location) : String :=
  let shared := ((base.zip location).takeWhile fun (a, b) => a == b).length
  let names := List.replicate (base.length - shared) ".." ++ location.drop shared
  if names.isEmpty then "." else String.intercalate "/" names

end PipeShell.Utility
