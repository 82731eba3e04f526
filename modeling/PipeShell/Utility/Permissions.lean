import PipeShell.Utility.Change
import PipeShell.Utility.Mode

/-! # Changing permissions

The permissions of files and directories become what clauses make of them, or those of
another file; on request for all that is below a directory too. -/

set_option autoImplicit false

namespace PipeShell.Utility

open PipeShell.System

inductive ChangeReport where
  | nothing
  | changes
  | everything
  deriving DecidableEq, Repr

structure ModeChange where
  clauses : List ModeClause
  recursive : Bool := false
  report : ChangeReport := .nothing
  silent : Bool := false
  /-- The permissions that were asked for are compared with those that came of it. -/
  compared : Bool := false
  sparesRoot : Bool := false

def withMode (files : FileSystem) (location : Location) (node : Node) (mode : Nat) : FileSystem :=
  match node with
  | .file number =>
    match files.stored[number]? with
    | some file => files.setFile number { file with attributes := { file.attributes with mode } }
    | none => files
  | .directory attributes => files.put location (.directory { attributes with mode })
  | _ => files

def objectTo (invocation : Invocation) (change : ModeChange) (text : String) : Task Unit := do
  if !change.silent then Task.mention invocation text
  Task.blame

def giveUpOn (invocation : Invocation) (change : ModeChange) (path text : String) : Task Unit := do
  objectTo invocation change text
  Task.sayIf (change.report = .everything) invocation (shownPath path ++ " could not be accessed")

def changeOne (invocation : Invocation) (change : ModeChange) (path : String) (location : Location) (node : Node) : Task Unit := do
  let files ← Task.look
  let viewer := invocation.viewer
  let attributes := files.attributesOf node
  let old := attributes.mode
  let mode := changeModeBits change.clauses node.isDirectory viewer.mask old
  let naive := changeModeBits change.clauses node.isDirectory 0 old
  let spell (mode : Nat) : String := octalText 4 mode ++ " (" ++ modeText mode ++ ")"
  let fromTo := " from " ++ spell old ++ " to " ++ spell mode
  if !viewer.user.privileged && attributes.owner != viewer.user.number then do
    objectTo invocation change ("changing permissions of " ++ shownPath path ++ ": " ++ Errno.notPermitted.text)
    Task.sayIf (change.report = .everything) invocation ("failed to change mode of " ++ shownPath path ++ fromTo)
  else do
    let _ ← Task.change fun files => .ok (withMode files location node mode)
    if mode = old then
      Task.sayIf (change.report = .everything) invocation ("mode of " ++ shownPath path ++ " retained as " ++ spell mode)
    else Task.sayIf (change.report != .nothing) invocation ("mode of " ++ shownPath path ++ " changed" ++ fromTo)
    if change.compared && ModeClause.without mode naive != 0 then
      Task.complain invocation (pathText path ++ ": new permissions are " ++ modeText mode ++ ", not " ++ modeText naive)

/-- Changes the permissions of what is at a location, and of what is below it, at most
`bound` levels deep. -/
def changeBelow (invocation : Invocation) (change : ModeChange) : Nat → String → Location → Task Unit
  | 0, _, _ => pure ()
  | bound + 1, path, location => do
    let files ← Task.look
    match files.get? location with
    | none => pure ()
    | some (.link _) =>
      Task.sayIf (change.report = .everything) invocation
        ("neither symbolic link " ++ shownPath path ++ " nor referent has been changed")
    | some node => do
      changeOne invocation change path location node
      if change.recursive && node.isDirectory then do
        let files ← Task.look
        let attributes := ((files.get? location).map files.attributesOf).getD ⟨0, 0⟩
        if !attributes.allows invocation.viewer.user .read then
          giveUpOn invocation change path ("cannot read directory " ++ shownPath path ++ ": " ++ Errno.accessDenied.text)
        else
          (namesIn files location).forM fun (name, _) => do
            let path := pathBelow path name
            if attributes.admits invocation.viewer.user then changeBelow invocation change bound path (location ++ [name])
            else giveUpOn invocation change path ("cannot access " ++ shownPath path ++ ": " ++ Errno.accessDenied.text)

def changeNamed (invocation : Invocation) (change : ModeChange) (path : String) : Task Unit := do
  let path := withOneSlash path
  let files ← Task.look
  match files.stat invocation.viewer path with
  | .error failure =>
    let isDangling : Bool :=
      match files.resolve invocation.viewer .keep path with
      | .ok ⟨_, some (.link _)⟩ => failure = .os .noEntry
      | _ => false
    giveUpOn invocation change path
      (if isDangling then "cannot operate on dangling symlink " ++ shownPath path
        else "cannot access " ++ shownPath path ++ ": " ++ reason failure)
  | .ok (location, _) =>
    if change.recursive && change.sparesRoot && location.isEmpty then do
      Task.complain invocation ("it is dangerous to operate recursively on " ++ shownPath path ++
        (if path = "/" then "" else " (same as '/')"))
      Task.complain invocation "use --no-preserve-root to override this failsafe"
    else changeBelow invocation change (files.entries.length + 1) path location

def changeFlags : List Char := ['c', 'v', 'f', 'R']

def isModeLetter (c : Char) : Bool :=
  ['r', 'w', 'x', 'X', 's', 't', 'u', 'g', 'o', 'a', ',', '+', '='].contains c || ('0' ≤ c && c ≤ '7')

/-- The letters in front of the mode in a word that is an option and a mode as well, if it
is one. -/
def flagsOfModeWord? (word : String) : Option (List Char) :=
  match word.toList with
  | '-' :: letters =>
    let flags := letters.takeWhile changeFlags.contains
    if (letters.drop flags.length).head?.any isModeLetter then some flags else none
  | _ => none

def changeTable : OptionTable := {
  flags := changeFlags, valued := ['=']
  long := [("changes", 'c'), ("recursive", 'R'), ("no-preserve-root", '/'), ("preserve-root", '%'), ("quiet", 'f'),
    ("reference", '='), ("silent", 'f'), ("verbose", 'v')] }

def ModeChange.ofOptions (options : Options) (clauses : List ModeClause) (compared : Bool) : ModeChange :=
  { clauses, recursive := options.has 'R', silent := options.has 'f', compared
    report :=
      match options.lastOf? ['c', 'v'] with
      | some 'c' => .changes
      | some _ => .everything
      | none => .nothing
    sparesRoot := options.lastOf? ['/', '%'] == some '%' }

def changeMode : Utility := fun invocation =>
  let front := invocation.arguments.takeWhile (· != "--")
  let modes := front.filter fun word => (flagsOfModeWord? word).isSome
  let others := front.filterMap fun word =>
    match flagsOfModeWord? word with
    | none => some word
    | some [] => none
    | some flags => some (String.ofList ('-' :: flags))
  let words := others ++ invocation.arguments.drop front.length
  withOptions changeTable { invocation with arguments := words } 1 fun options =>
    let run (change : ModeChange) (paths : List String) : Program := Task.run (paths.forM (changeNamed invocation change))
    match options.value? '=', modes, options.operands with
    | some _, _ :: _, _ => refuse invocation "cannot combine mode and --reference options"
    | some _, [], [] => refuse invocation "missing operand"
    | none, [], [] => refuse invocation "missing operand"
    | none, _ :: _, [] => refuse invocation "missing operand"
    | none, [], [only] => refuse invocation ("missing operand after " ++ shown only)
    | some reference, [], paths =>
      .look fun files =>
        match files.stat invocation.viewer reference with
        | .error failure => fail invocation ("failed to get attributes of " ++ shownPath reference ++ ": " ++ reason failure)
        | .ok (_, node) =>
          let clause : ModeClause := ⟨ModeClause.allBits, .set, .bits (files.attributesOf node).mode, false⟩
          run (ModeChange.ofOptions options [clause] false) paths
    | none, modes, operands =>
      let (word, paths) :=
        if modes.isEmpty then (operands.headD "", operands.drop 1) else (String.intercalate "," modes, operands)
      match readMode word with
      | none => refuse invocation ("invalid mode: " ++ shown word)
      | some clauses => run (ModeChange.ofOptions options clauses (!modes.isEmpty)) paths

end PipeShell.Utility
