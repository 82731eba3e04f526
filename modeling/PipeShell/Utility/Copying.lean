import PipeShell.Utility.Copying.Tree

/-! # Copying

What the options of a call say about copying, and where each operand goes. Directories
above an operand may be made again at the goal. -/

set_option autoImplicit false

namespace PipeShell.Utility

open PipeShell.System

inductive Kept where
  | mode
  | timestamps
  | ownership
  | links
  | context
  | attributes
  | all
  deriving DecidableEq, Repr

def keptChoices : Choices Kept :=
  [("mode", .mode), ("timestamps", .timestamps), ("ownership", .ownership), ("links", .links), ("context", .context),
    ("xattr", .attributes), ("all", .all)]

def sparseChoices : Choices Nat := [("never", 0), ("auto", 1), ("always", 2)]

def sharingChoices : Choices Nat := [("auto", 0), ("always", 1), ("never", 2)]

def keptIn (names : String) : List Kept :=
  (names.toList.splitOn ',').filterMap fun name => (keptChoices.choose (String.ofList name)).toOption

def keptRefusal? (option names : String) : Option Refusal :=
  (names.toList.splitOn ',').findSome? fun name => keptChoices.refusal? option (String.ofList name)

def TransferStyle.keep (style : TransferStyle) (isKept : Bool) (what : Kept) : TransferStyle :=
  match what with
  | .mode => { style with keepsModes := isKept, freshModes := !isKept }
  | .ownership => { style with keepsOwners := isKept }
  | .links => { style with joinsNames := isKept }
  | .all => { style with keepsModes := isKept, freshModes := !isKept, keepsOwners := isKept, joinsNames := isKept }
  | .timestamps | .context | .attributes => style

def copyTable : OptionTable :=
  targetOptions {
    flags := ['a', 'd', 'f', 'H', 'i', 'l', 'L', 'n', 'P', 'p', 'r', 'R', 's', 'u', 'v', 'x', 'Z']
    valued := ['!', '%'], optional := ['+', '~', '@']
    long := [("archive", 'a'), ("attributes-only", '#'), ("copy-contents", '&'), ("dereference", 'L'), ("force", 'f'),
      ("interactive", 'i'), ("link", 'l'), ("no-clobber", 'n'), ("no-dereference", 'P'), ("no-preserve", '!'),
      ("one-file-system", 'x'), ("parents", '/'), ("path", '/'), ("preserve", '+'), ("recursive", 'R'),
      ("remove-destination", '('), ("sparse", '%'), ("reflink", '~'), ("strip-trailing-slashes", ')'),
      ("symbolic-link", 's'), ("update", 'u'), ("verbose", 'v'), ("context", '@')]
    check := fun letter value =>
      match letter with
      | '!' => keptRefusal? "--no-preserve" value
      | '+' => if value.isEmpty then none else keptRefusal? "--preserve" value
      | '%' => sparseChoices.refusal? "--sparse" value
      | '~' => if value.isEmpty then none else sharingChoices.refusal? "--reflink" value
      | _ => none }

def TransferStyle.adopt (style : TransferStyle) (letter : Char) (value : String) : TransferStyle :=
  match letter with
  | 'a' => { style with links := .kept, joinsNames := true, keepsModes := true, keepsOwners := true, recursive := true }
  | '#' => { style with copiesData := false }
  | 'd' => { style with joinsNames := true, links := .kept }
  | 'f' => { style with replaces := true }
  | 'H' => { style with links := .operands }
  | 'i' => { style with overwriting := .asked }
  | 'l' => { style with hardLinks := true }
  | 'L' => { style with links := .followed }
  | 'n' => { style with overwriting := .refused }
  | 'P' => { style with links := .kept }
  | '!' => (keptIn value).foldl (fun style what => style.keep false what) style
  | '+' =>
    if value.isEmpty then { style with keepsModes := true, keepsOwners := true }
    else (keptIn value).foldl (fun style what => style.keep true what) style
  | 'p' => { style with keepsModes := true, keepsOwners := true }
  | 'r' | 'R' => { style with recursive := true }
  | '(' => { style with removesFirst := true }
  | 's' => { style with symbolicLinks := true }
  | 'u' => { style with updates := true }
  | 'v' => { style with verbose := true }
  | _ => style

def TransferStyle.ofCopyOptions (options : Options) : TransferStyle :=
  let style := options.given.foldl (fun style (letter, value) => style.adopt letter value) ({} : TransferStyle)
  let isChosen := options.given.any fun (letter, _) => ['a', 'd', 'H', 'L', 'P'].contains letter
  { style with
    links := if isChosen then style.links else if style.recursive && !style.hardLinks then .kept else .followed
    readsDevices := !style.recursive || options.has '&'
    updates := style.updates && style.overwriting != .refused }

def copyConflict? (options : Options) (style : TransferStyle) : Option Refusal :=
  let sharing := (options.value? '~').map fun value => value.isEmpty || (sharingChoices.choose value).toOption == some 1
  let isSparse := ((options.value? '%').bind fun value => (sparseChoices.choose value).toOption).getD 1 != 1
  if style.hardLinks && style.symbolicLinks then some { message := "cannot make both hard and symbolic links" }
  else if BackupStyle.isAsked options && style.overwriting = .refused then
    some { message := "options --backup and --no-clobber are mutually exclusive" }
  else if sharing == some true && isSparse then some { message := "--reflink can be used only with --sparse=auto" }
  else none

namespace Transfer

/-- The modes that the directories above a copy are to have in the end, by their
paths. -/
abbrev LaterModes := List (String × Nat)

def makeParent (invocation : Invocation) (style : TransferStyle) (target path : String) : Transfer (Option LaterModes) := do
  let files ← Task.look
  let viewer := invocation.viewer
  let goal := pathInside target path
  let found := (files.stat viewer goal).toOption
  if found.isSome && !style.keepsModes && !style.keepsOwners then
    if found.any fun (_, node) => node.isDirectory then return some []
    else do
      Task.complain invocation (shownPath goal ++ " exists but is not a directory")
      return none
  else
    let source : Except Failure Attributes :=
      match files.stat viewer path with
      | .ok (_, .directory attributes) => .ok attributes
      | .ok _ => .error (.os .notDirectory)
      | .error failure => .error failure
    match source, found with
    | .error failure, _ => do
      Task.complain invocation ("failed to get attributes of " ++ shownPath path ++ ": " ++ reason failure)
      return none
    | .ok attributes, some (_, node) =>
      if node.isDirectory then return some (if style.keepsModes then [(goal, attributes.mode)] else [])
      else do
        Task.complain invocation (shownPath goal ++ " exists but is not a directory")
        return none
    | .ok attributes, none => do
      match ← Task.change fun files => files.makeDirectory viewer goal with
      | .error failure => do
        Task.complain invocation ("cannot make directory " ++ shownPath goal ++ ": " ++ reason failure)
        return none
      | .ok () => do
        Task.sayIf style.verbose invocation (path ++ " -> " ++ goal)
        let mode := ModeClause.without (if style.freshModes then 0o777 else attributes.mode &&& 0o1777) viewer.mask
        let _ ← Task.change fun files => .ok (FileSystem.setModeOf files viewer goal (mode ||| 0o700))
        return some [(goal, if style.keepsModes then attributes.mode else mode)]

/-- Makes the directories above a copy as far as they are missing. The answer is the modes
that they are to have in the end, unless this fails. -/
def makeParents (invocation : Invocation) (style : TransferStyle) (target : String) (modes : LaterModes) :
    List String → Transfer (Option LaterModes)
  | [] => pure (some modes)
  | path :: rest => do
    match ← makeParent invocation style target path with
    | none => return none
    | some more => makeParents invocation style target (modes ++ more) rest

def copyWithParents (invocation : Invocation) (style : TransferStyle) (target source : String) : Transfer Unit := do
  let name := withoutSlashes source
  let above := pathsAbove name.length name
  let goal := pathInside target name
  let files ← Task.look
  let viewer := invocation.viewer
  let parent := above.getLast?.map (pathInside target)
  let found := parent.bind fun parent => (files.stat viewer parent).toOption
  let modes ←
    match parent, found with
    | some parent, some (_, node) =>
      if node.isDirectory then pure (some [])
      else do
        Task.complain invocation (shownPath parent ++ " exists but is not a directory")
        pure none
    | some _, none => makeParents invocation style target [] above
    | none, _ => pure (some [])
  match modes with
  | none => pure ()
  | some modes => do
    let route : Route := { source, goal }
    copyNode invocation style route (files.entries.length + 1) [] .unknown route
    modes.forM fun (path, mode) => do
      let _ ← Task.change fun files => .ok (FileSystem.setModeOf files viewer path mode)

def copyInto (invocation : Invocation) (style : TransferStyle) (target source : String) : Transfer Unit := do
  let files ← Task.look
  let name := if lastComponent source = "" then "" else withoutSlashes (lastComponent source)
  let route : Route := { source, goal := pathInside target (if name = ".." then "." else name) }
  copyNode invocation style route (files.entries.length + 1) [] .unknown route

def beginOperand : Transfer Unit := modify fun log => { log with hasDirectory := false, isInside := false }

end Transfer

def copyOperands (invocation : Invocation) (options : Options) (style : TransferStyle) (files : FileSystem) : Program :=
  let strip (path : String) : String := if options.has ')' then withoutSlashes path else path
  match Target.ofOptions invocation options files with
  | .error program => program
  | .ok (.directory target sources) =>
    let style := { style with target := some target }
    let act (source : String) : Transfer Unit := do
      Transfer.beginOperand
      if options.has '/' then Transfer.copyWithParents invocation style target (strip source)
      else Transfer.copyInto invocation style target (strip source)
    Task.run do
      let _ ← (sources.forM act).run { isLong := sources.length > 1 }
  | .ok (.path source goal) =>
    if options.has '/' then refuse invocation "with --parents, the destination must be a directory"
    else
      let isFile : Bool :=
        match files.stat invocation.viewer goal with
        | .ok (_, node) => node.isFile
        | .error _ => false
      let (goal, style) :=
        if style.replaces && style.backup.isWanted && source == goal && isFile then
          (style.backup.pathOf files invocation.viewer goal, { style with backup := {} })
        else (goal, style)
      let hint : GoalHint :=
        if !options.has 'T' && targetFault? files invocation.viewer goal == some (.os .noEntry) then .seemsMissing else .unknown
      let route : Route := { source, goal }
      Task.run do
        let _ ← (Transfer.copyNode invocation style route (files.entries.length + 1) [] hint route).run {}

def copy : Utility := fun invocation =>
  withOptions copyTable invocation 1 fun options =>
    let style := TransferStyle.ofCopyOptions options
    let proceed : Program :=
      match copyConflict? options style, BackupStyle.ofOptions invocation.environment options with
      | some refusal, _ => refuseFor invocation refusal
      | none, .error refusal => refuseFor invocation refusal
      | none, .ok backup =>
        let keepsContext := options.given.foldl (fun keeps (letter, value) =>
          if letter = '+' && (keptIn value).contains .context then true
          else if letter = '!' && (keptIn value).contains .context then false
          else keeps) false
        if keepsContext then fail invocation "cannot preserve security context without an SELinux-enabled kernel"
        else .look fun files => copyOperands invocation options { style with backup } files
    if options.given.any fun (letter, value) => letter = '@' && !value.isEmpty then
      warn invocation "warning: ignoring --context; it requires an SELinux-enabled kernel" fun _ => proceed
    else proceed

end PipeShell.Utility
