import PipeShell.Utility.Basic
import PipeShell.Utility.Canonical

/-! # Showing where paths lead

One utility shows where a link leads, the other one where a path does when all its links
are followed. -/

set_option autoImplicit false

namespace PipeShell.Utility

open PipeShell.System

def showAnswers (invocation : Invocation) (tells : Bool) (ending : String) (answer : String → Except Failure String)
    (failed : Bool) : List String → Program
  | [] => .exitWith (if failed then 1 else 0)
  | path :: rest =>
    match answer path with
    | .ok text =>
      emit invocation (rawBytes (text ++ ending)) fun _ => showAnswers invocation tells ending answer failed rest
    | .error failure =>
      if tells then
        warn invocation (pathText path ++ ": " ++ reason failure) fun _ => showAnswers invocation tells ending answer true rest
      else showAnswers invocation tells ending answer true rest

def linkTarget (files : FileSystem) (viewer : Viewer) (path : String) : Except Failure String :=
  match files.examine viewer false path with
  | .ok (_, .link target) => .ok target
  | .ok _ => .error (.os .invalid)
  | .error failure => .error failure

def missingParts (letter : Char) : MissingParts :=
  match letter with
  | 'e' => .none
  | 'm' => .any
  | _ => .last

def showLink : Utility := fun invocation =>
  let table : OptionTable := {
    flags := ['n', 'f', 'e', 'm', 'q', 's', 'v', 'z']
    long := [("canonicalize", 'f'), ("canonicalize-existing", 'e'), ("canonicalize-missing", 'm'), ("no-newline", 'n'),
      ("quiet", 'q'), ("silent", 's'), ("verbose", 'v'), ("zero", 'z')] }
  withOptions table invocation 1 fun options =>
    let viewer := invocation.viewer
    let isLone := options.operands.length = 1
    let isStrict := (invocation.environment.get? "POSIXLY_CORRECT").isSome
    let tells := isStrict || options.lastOf? ['q', 's', 'v'] == some 'v'
    let ending := if options.has 'n' && isLone then "" else if options.has 'z' then "\x00" else "\n"
    let proceed : Program := .look fun files =>
      let answer (path : String) : Except Failure String :=
        match options.lastOf? ['f', 'e', 'm'] with
        | some letter => (canonicalPath files viewer { missing := missingParts letter } path).map Location.path
        | none => linkTarget files viewer path
      showAnswers invocation tells ending answer false options.operands
    if options.operands.isEmpty then refuse invocation "missing operand"
    else if options.has 'n' && !isLone then
      warn invocation "ignoring --no-newline with multiple arguments" fun _ => proceed
    else proceed

/-- Between which locations paths are shown as seen from one of them. -/
structure RelativeView where
  start : Location
  /-- Only what is below is shown as seen from there. -/
  base : Option Location := none
  deriving DecidableEq, Repr

def RelativeView.show (view : Option RelativeView) (location : Location) : String :=
  match view with
  | none => Location.path location
  | some view =>
    if view.base.all fun base => base.isPrefixOf location then relativePath view.start location else Location.path location

def showRealPath : Utility := fun invocation =>
  let table : OptionTable := {
    flags := ['e', 'm', 'L', 'P', 'q', 's', 'z'], valued := ['=', '+']
    long := [("canonicalize-existing", 'e'), ("canonicalize-missing", 'm'), ("relative-to", '='), ("relative-base", '+'),
      ("quiet", 'q'), ("strip", 's'), ("no-symlinks", 's'), ("zero", 'z'), ("logical", 'L'), ("physical", 'P')] }
  withOptions table invocation 1 fun options =>
    if options.operands.isEmpty then refuse invocation "missing operand"
    else
      .look fun files =>
        let viewer := invocation.viewer
        let kind := options.lastOf? ['L', 'P', 's']
        let missing := missingParts ((options.lastOf? ['e', 'm']).getD 'f')
        let manner : PathManner := { missing, keepsLinks := kind == some 'L' || kind == some 's' }
        let answer (path : String) : Except Failure Location := do
          let location ← canonicalPath files viewer manner path
          if kind == some 'L' then canonicalPath files viewer { missing } (Location.path location) else return location
        let directory (path : Option String) : Except (String × Failure) (Option Location) :=
          match path with
          | none => .ok none
          | some path =>
            match answer path with
            | .error failure => .error (path, failure)
            | .ok location =>
              if missing = .none && !files.isDirectory viewer (Location.path location) then .error (path, .os .notDirectory)
              else .ok (some location)
        let base := options.value? '+'
        let start := (options.value? '=').orElse fun _ => base
        match directory start, directory base with
        | .error (path, failure), _ | _, .error (path, failure) => fail invocation (pathText path ++ ": " ++ reason failure)
        | .ok start, .ok base =>
          let view : Option RelativeView :=
            match start, base with
            | none, _ => none
            | some start, none => some { start }
            | some start, some base => if base.isPrefixOf start then some { start, base := some base } else none
          showAnswers invocation (!options.has 'q') (if options.has 'z' then "\x00" else "\n")
            (fun path => (answer path).map (RelativeView.show view)) false options.operands

end PipeShell.Utility
