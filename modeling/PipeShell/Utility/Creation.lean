import PipeShell.Text.Moment
import PipeShell.Utility.Change
import PipeShell.Utility.Mode

/-! # Making files and directories

Directories are made one by one, or with all those above them that are missing. Files
are made empty, and those that are there stay as they are. -/

set_option autoImplicit false

namespace PipeShell.Utility

open PipeShell.System

structure DirectoryStyle where
  /-- Those above are made too, and what is there already does not matter. -/
  withParents : Bool := false
  mode : Option (List ModeClause) := none
  verbose : Bool := false

def makeOne (viewer : Viewer) (mode : Option (List ModeClause)) (files : FileSystem) (path : String) :
    Except Failure FileSystem := do
  let files ← files.makeDirectory viewer path
  match mode with
  | none => return files
  | some clauses =>
    match files.stat viewer path with
    | .ok (location, .directory attributes) =>
      return files.put location (.directory { attributes with mode := changeModeBits clauses true viewer.mask 0o777 })
    | _ => return files

def tellMade (invocation : Invocation) (style : DirectoryStyle) (path : String) : Task Unit :=
  Task.sayIf style.verbose invocation (invocation.name ++ ": created directory " ++ shownPath path)

/-- Makes the directories above another one as far as they are missing. The answer tells
whether they are all there and may be entered. -/
def makeAbove (invocation : Invocation) (style : DirectoryStyle) : List String → Task Bool
  | [] => pure true
  | path :: rest => do
    let last := lastComponent path
    if last = "." then makeAbove invocation style rest
    else do
      let mask := ModeClause.without invocation.viewer.mask 0o300
      let made ← if last = ".." then pure (.error (.os .alreadyExists))
        else Task.change fun files => files.makeDirectory { invocation.viewer with mask } path
      match made with
      | .ok () => tellMade invocation style path
      | .error _ => pure ()
      let files ← Task.look
      let entered : Except Failure Unit :=
        match files.stat invocation.viewer path with
        | .ok (location, _) => (files.search invocation.viewer.user location ".").mapError .os
        | .error failure => .error failure
      match entered, made with
      | .ok (), _ => makeAbove invocation style rest
      | .error (.os .noEntry), .error failure | .error failure, _ => do
        Task.complain invocation ("cannot create directory " ++ shownPath path ++ ": " ++ reason failure)
        return false

def makeNamed (invocation : Invocation) (style : DirectoryStyle) (path : String) : Task Unit := do
  let above ← if style.withParents then makeAbove invocation style (pathsAbove path.length path) else pure true
  if above then
    match ← Task.change fun files => makeOne invocation.viewer style.mode files path with
    | .ok () => tellMade invocation style path
    | .error failure => do
      let files ← Task.look
      let found := files.stat invocation.viewer path
      let refused := Task.complain invocation ("cannot create directory " ++ shownPath path ++ ": " ++ reason failure)
      if !style.withParents || failure = .os .noEntry then refused
      else
        match found with
        | .ok (_, node) => if node.isDirectory then pure () else refused
        | .error missing =>
          if failure = .os .alreadyExists && missing != .os .noEntry && missing != .os .notDirectory then
            Task.complain invocation ("cannot stat " ++ shownPath path ++ ": " ++ reason missing)
          else refused

def makeDirectories : Utility := fun invocation =>
  let table : OptionTable := {
    flags := ['p', 'v', 'Z'], valued := ['m'], optional := ['^']
    long := [("parents", 'p'), ("verbose", 'v'), ("mode", 'm'), ("context", '^')] }
  withOptions table invocation 1 fun options =>
    let mode := (options.value? 'm').map readMode
    let style : DirectoryStyle := { withParents := options.has 'p', mode := mode.join, verbose := options.has 'v' }
    Task.run do
      if options.given.any fun (letter, value) => letter = '^' && !value.isEmpty then
        Task.mention invocation "warning: ignoring --context; it requires an SELinux/SMACK-enabled kernel"
      if options.operands.isEmpty then Task.stop (refuse invocation "missing operand")
      else if mode == some none then
        Task.stop (fail invocation ("invalid mode " ++ shown ((options.value? 'm').getD "")))
      else options.operands.forM (makeNamed invocation style)

structure TouchStyle where
  keepsMissing : Bool := false
  keepsLinks : Bool := false
  deriving DecidableEq, Repr

def touchOne (invocation : Invocation) (style : TouchStyle) (path : String) : Task Unit := do
  let opened ← if style.keepsMissing || style.keepsLinks then pure (.ok ())
    else Task.change fun files => (files.openWrite invocation.viewer .append path).map (·.1)
  let files ← Task.look
  let found : Except Failure Unit :=
    match files.resolve invocation.viewer (if style.keepsLinks then .keep else .follow) path with
    | .ok found => if found.node.isSome then .ok () else .error (.os .noEntry)
    | .error failure => .error failure
  match found, opened with
  | .ok (), _ => pure ()
  | .error failure, opened =>
    match opened with
    | .error (.os .isDirectory) | .ok () =>
      if style.keepsMissing && failure = .os .noEntry then pure ()
      else Task.complain invocation ("setting times of " ++ shownPath path ++ ": " ++ reason failure)
    | .error failure => Task.complain invocation ("cannot touch " ++ shownPath path ++ ": " ++ reason failure)

def touchedTimes : Choices Char := [("atime", 'a'), ("access", 'a'), ("use", 'a'), ("mtime", 'm'), ("modify", 'm')]

def touchTable : OptionTable := {
  flags := ['a', 'm', 'c', 'f', 'h'], valued := ['d', 't', 'r', '=']
  long := [("time", '='), ("no-create", 'c'), ("date", 'd'), ("reference", 'r'), ("no-dereference", 'h')]
  check := fun letter value =>
    if letter = 't' && !Text.isStamp value then some { message := "invalid date format " ++ shown value, hinted := false }
    else if letter = '=' then touchedTimes.refusal? "--time" value
    else none }

def touch : Utility := fun invocation =>
  withOptions touchTable invocation 1 fun options =>
    let date := options.value? 'd'
    let reference := options.value? 'r'
    let style : TouchStyle := { keepsMissing := options.has 'c', keepsLinks := options.has 'h' }
    if options.has 't' && (date.isSome || reference.isSome) then
      refuse invocation "cannot specify times from more than one source"
    else
      .look fun files =>
        let referred : Except Failure Unit :=
          match reference with
          | none => .ok ()
          | some path =>
            match files.resolve invocation.viewer (if style.keepsLinks then .keep else .follow) path with
            | .ok found => if found.node.isSome then .ok () else .error (.os .noEntry)
            | .error failure => .error failure
        match referred with
        | .error failure =>
          fail invocation ("failed to get attributes of " ++ shownPath (reference.getD "") ++ ": " ++ reason failure)
        | .ok () =>
          if !date.all Text.isMoment then fail invocation ("invalid date format " ++ shown (date.getD ""))
          else if options.operands.isEmpty then refuse invocation "missing file operand"
          else Task.run ((options.operands.filter (· != "-")).forM (touchOne invocation style))

end PipeShell.Utility
