import PipeShell.Utility.Mode
import PipeShell.Utility.Transfer

/-! # Copying trees

A file is copied by what it holds, a link by where it leads, and a directory with all
that is below it. Instead of a copy there may be a further name or a link. -/

set_option autoImplicit false

namespace PipeShell.Utility

open PipeShell.System

/-- What is known of the goal before a source is copied there. -/
inductive GoalHint where
  | unknown
  | seemsMissing
  /-- It is in a directory that has just been made. -/
  | missing
  deriving DecidableEq, Repr

namespace FileSystem

open PipeShell.System

def createNew (files : FileSystem) (viewer : Viewer) (mode : Nat) (path : String) : Except Failure (FileSystem × OpenFile) := do
  let place ← files.place viewer path
  if place.slashed then .error (.os .isDirectory)
  else if !place.isEntry || place.node.isSome then .error (.os .alreadyExists)
  else do
    files.checkChange viewer place.location.dropLast
    return (files.create place.location ⟨⟨ModeClause.without mode viewer.mask, viewer.user.number⟩, []⟩,
      .ofMode .update (.file files.stored.length))

def setMode (files : FileSystem) (location : Location) (mode : Nat) : FileSystem :=
  match files.get? location with
  | some (.file number) =>
    match files.stored[number]? with
    | some file => files.setFile number { file with attributes := { file.attributes with mode } }
    | none => files
  | some (.directory attributes) => files.put location (.directory { attributes with mode })
  | _ => files

def setModeOf (files : FileSystem) (viewer : Viewer) (path : String) (mode : Nat) : FileSystem :=
  match files.stat viewer path with
  | .ok (location, _) => setMode files location mode
  | .error _ => files

end FileSystem

namespace Transfer

/-- Opens a goal that is there already, or removes it if it cannot be opened. The
answer is the open file, or nothing if a new file has to be created. -/
def openOld (invocation : Invocation) (style : TransferStyle) (route : Route) : Transfer (Option (Option OpenFile)) := do
  let files ← Task.look
  let mode : WriteMode := if style.copiesData then .truncate else .update
  let opened := (files.stat invocation.viewer route.goal).bind fun _ => files.openWrite invocation.viewer mode route.goal
  match opened with
  | .ok (_, file) => do
    let _ ← Task.change fun files => (files.openWrite invocation.viewer mode route.goal).map (·.1)
    return some (some file)
  | .error failure =>
    if failure = .os .noEntry then return some none
    else if style.replaces then do
      match ← Task.change fun files => files.unlink invocation.viewer route.goal with
      | .ok () => do
        Task.sayIf style.verbose invocation ("removed " ++ shownPath route.goal)
        return some none
      | .error failure =>
        if failure = .os .noEntry then return some none
        else do
          Task.complain invocation ("cannot remove " ++ shownPath route.goal ++ ": " ++ reason failure)
          return none
    else do
      Task.complain invocation ("cannot create regular file " ++ shownPath route.goal ++ ": " ++ reason failure)
      return none

def openNew (invocation : Invocation) (mode : Nat) (route : Route) : Transfer (Option OpenFile) := do
  let files ← Task.look
  match FileSystem.createNew files invocation.viewer mode route.goal with
  | .ok (_, file) => do
    let _ ← Task.change fun files => (FileSystem.createNew files invocation.viewer mode route.goal).map (·.1)
    return some file
  | .error failure => do
    let isLink : Bool :=
      match files.place invocation.viewer route.goal with
      | .ok place => place.node.any fun node => (node matches .link _)
      | .error _ => false
    let failure : Failure := if failure = .os .isDirectory && Path.endsWithSlash route.goal then .os .notDirectory else failure
    Task.complain invocation
      (if failure = .os .alreadyExists && isLink then "not writing through dangling symlink " ++ shownPath route.goal
        else "cannot create regular file " ++ shownPath route.goal ++ ": " ++ reason failure)
    return none

def copyFile (invocation : Invocation) (style : TransferStyle) (route : Route) (node : Node) (isNew : Bool) : Transfer Bool := do
  let files ← Task.look
  let viewer := invocation.viewer
  let attributes := files.attributesOf node
  match files.openRead viewer route.source with
  | .error failure => do
    Task.complain invocation ("cannot open " ++ shownPath route.source ++ " for reading: " ++ reason failure)
    return false
  | .ok file => do
    let source := Source.ofOpened file
    let mode := attributes.mode &&& 0o777
    let old ← if isNew then pure (some none) else openOld invocation style route
    match old with
    | none => return false
    | some old => do
      let opened ←
        match old with
        | some file => pure (some file)
        | none => openNew invocation mode route
      match opened with
      | none => return false
      | some file => do
        let wasNew := old.isNone
        let mask := viewer.mask
        let finalMode : Option Nat :=
          if style.keepsModes then some attributes.mode
          else if style.freshModes && wasNew then some (ModeClause.without 0o666 mask)
          else if wasNew && style.keepsOwners && ModeClause.without (mode &&& 0o077) mask != 0 then some mode
          else none
        let data ←
          if !style.copiesData then pure []
          else
            match source with
            | .descriptor number => Task.readAll number
            | .opened source => pure (files.remaining source)
        match ← Task.write (Outlet.ofOpened file) data with
        | some e => do
          Task.complain invocation ("error writing " ++ shownPath route.goal ++ ": " ++ e.text)
          return false
        | none => do
          let _ ← Task.change fun files =>
            match finalMode, file.node with
            | some mode, .file number =>
              match files.stored[number]? with
              | some stored => .ok (files.setFile number { stored with attributes := { stored.attributes with mode } })
              | none => .ok files
            | _, _ => .ok files
          return true

def linkSoftly (invocation : Invocation) (style : TransferStyle) (route : Route) : Transfer Bool := do
  let files ← Task.look
  let isHere : Bool :=
    match files.place invocation.viewer route.goal with
    | .ok place => place.location.dropLast == invocation.viewer.directory
    | .error _ => true
  if !Path.isAbsolute route.source && !isHere then do
    Task.complain invocation (unquotedOr [':'] route.goal ++ ": can make relative symbolic links only in current directory")
    return false
  else
    match ← Task.change fun files => files.addLink invocation.viewer style.replaces route.source route.goal with
    | .ok () => return true
    | .error failure => do
      Task.complain invocation ("cannot create symbolic link " ++ shownPath route.goal ++ " to " ++ shownPath route.source ++
        ": " ++ reason failure)
      return false

def linkFirmly (invocation : Invocation) (follows replaces : Bool) (origin : String) (route : Route) : Transfer Bool := do
  match ← Task.change fun files => files.link invocation.viewer follows replaces origin route.goal with
  | .ok () => return true
  | .error failure => do
    Task.complain invocation ("cannot create hard link " ++ shownPath route.goal ++ " to " ++ shownPath origin ++ ": " ++
      reason failure)
    return false

def copyLink (invocation : Invocation) (style : TransferStyle) (route : Route) (target : String) : Transfer Bool := do
  match ← Task.change fun files => files.addLink invocation.viewer style.replaces target route.goal with
  | .ok () => return true
  | .error failure => do
    Task.complain invocation ("cannot create symbolic link " ++ shownPath route.goal ++ ": " ++ reason failure)
    return false

def rememberCopy (source : Location × Node) (goal : String) : Transfer (Option String) := do
  let log ← get
  match log.copied.find? fun (found, _) => FileSystem.sameNode found source with
  | some (_, earlier) => return some earlier
  | none => do
    set { log with copied := (source, goal) :: log.copied }
    return none

/-- Where the source of a route has been copied to before, as far as this matters. -/
def earlierCopy (style : TransferStyle) (route : Route) (source : Location × Node) :
    Transfer (Option String) := do
  let files ← Task.look
  if style.recursive && source.2.isDirectory then
    if route.isOperand then rememberCopy source route.goal
    else return ((← get).copied.find? fun (found, _) => FileSystem.sameNode found source).map (·.2)
  else if style.joinsNames && !style.hardLinks &&
      (files.nameCount source.2 > 1 || (route.isOperand && style.links = .operands) || style.links = .followed) then
    rememberCopy source route.goal
  else return none

/-- Decides about a directory that has been copied before. The answer tells whether it is
copied again. -/
def meetCopy (invocation : Invocation) (style : TransferStyle) (top route : Route) (earlier : String) : Transfer Bool := do
  let files ← Task.look
  if files.sameEntry invocation.viewer route.source (style.entered earlier) then do
    Task.complain invocation ("cannot copy a directory, " ++ shownPath top.source ++ ", into itself, " ++ shownPath top.goal)
    modify fun log => { log with isInside := true }
    return false
  else if files.sameEntry invocation.viewer (style.entered route.goal) (style.entered earlier) then do
    Task.mention invocation ("warning: source directory " ++ shownPath top.source ++ " specified more than once")
    return false
  else if style.follows route.isOperand then return true
  else do
    Task.complain invocation ("will not create hard link " ++ shownPath route.goal ++ " to directory " ++ shownPath earlier)
    return false

def makeGoal (invocation : Invocation) (style : TransferStyle) (route : Route) (attributes : Attributes) : Transfer Bool := do
  let viewer := invocation.viewer
  match ← Task.change fun files => files.makeDirectory viewer route.goal with
  | .error failure => do
    Task.complain invocation ("cannot create directory " ++ shownPath route.goal ++ ": " ++ reason failure)
    return false
  | .ok () => do
    let mode := ModeClause.without (attributes.mode &&& 0o1777) viewer.mask ||| 0o700
    let _ ← Task.change fun files => .ok (FileSystem.setModeOf files viewer route.goal mode)
    let files ← Task.look
    match files.stat viewer route.goal with
    | .ok found => if !(← get).hasDirectory then do
        let _ ← rememberCopy found route.goal
        modify fun log => { log with hasDirectory := true }
    | .error _ => pure ()
    Task.sayIf style.verbose invocation (arrow route none)
    return true

def finishGoal (invocation : Invocation) (style : TransferStyle) (route : Route) (attributes : Attributes) (isNew : Bool) :
    Transfer Unit := do
  let mask := invocation.viewer.mask
  let mode : Option Nat :=
    if style.keepsModes then some attributes.mode
    else if !isNew then none
    else if style.freshModes then some (ModeClause.without 0o777 mask)
    else some (ModeClause.without (attributes.mode &&& 0o1777) mask)
  match mode with
  | some mode => do
    if route.goal.isEmpty then
      Task.complain invocation ("preserving permissions for " ++ shownPath route.goal ++ ": " ++ Errno.noEntry.text)
    let _ ← Task.change fun files => .ok (FileSystem.setModeOf files invocation.viewer route.goal mode)
  | none => pure ()

/-- Finds the goal of a copy and makes way there. The answer is nothing if the copy is
not to be made. -/
def approach (invocation : Invocation) (style : TransferStyle) (hint : GoalHint) (route : Route) (source : Location × Node) :
    Transfer (Option Clearance) := do
  let files ← Task.look
  let viewer := invocation.viewer
  let isPlain : Bool :=
    match source.2 with
    | .directory _ | .link _ => false
    | .device _ | .pipe _ => style.readsDevices
    | _ => true
  let follows := isPlain && !style.symbolicLinks && !style.hardLinks && !style.backup.isWanted && !style.removesFirst
  if hint = .missing || (follows && hint = .seemsMissing) then return some { isNew := true }
  else
    match files.examine viewer follows route.reached with
    | .ok goal => makeWay invocation style route source goal
    | .error failure =>
      if failure = .os .noEntry then return some { isNew := true }
      else if failure = .os .tooManyLinks && style.replaces then return some { isNew := false }
      else do
        Task.complain invocation ("cannot stat " ++ shownPath route.goal ++ ": " ++ reason failure)
        return none

/-- Whether a file that an operand names has been named before; it is remembered from now
on. -/
def isRepeated (invocation : Invocation) (style : TransferStyle) (route : Route) (source : Location × Node) : Transfer Bool := do
  let log ← get
  if !(route.isOperand && log.isLong) then return false
  else do
    let files ← Task.look
    let isTaken : Bool := log.taken.any fun (path, found) =>
      FileSystem.sameNode found source && files.sameEntry invocation.viewer path route.source
    if !source.2.isDirectory && !style.backup.isWanted && isTaken then do
      Task.mention invocation ("warning: source file " ++ shownPath route.source ++ " specified more than once")
      return true
    else do
      set { log with taken := (route.source, source) :: log.taken }
      return false

/-- Whether a copy would be written through a link that has been made for another
operand. -/
def isThroughMade (invocation : Invocation) (style : TransferStyle) (route : Route) : Transfer Bool := do
  let files ← Task.look
  match files.examine invocation.viewer false route.goal with
  | .ok (_, .link _) =>
    if !style.backup.isWanted && isMade (← get) files invocation.viewer route then do
      Task.complain invocation ("will not copy " ++ shownPath route.source ++ " through just-created symlink " ++
        shownPath route.goal)
      return true
    else return false
  | _ => return false

def copyLeaf (invocation : Invocation) (style : TransferStyle) (route : Route) (node : Node) (isNew : Bool) : Transfer Bool := do
  if style.symbolicLinks then linkSoftly invocation style route
  else if style.hardLinks then
    linkFirmly invocation (style.follows route.isOperand) (style.replaces || style.overwriting = .asked) route.source route
  else
    match node with
    | .link target => copyLink invocation style route target
    | .device _ | .pipe _ =>
      if style.readsDevices then copyFile invocation style route node isNew
      else do
        Task.complain invocation ("cannot create special file " ++ shownPath route.goal ++ ": " ++ Errno.notPermitted.text)
        return false
    | node => copyFile invocation style route node isNew

/-- Copies the names in a directory by `copyEntry` until one of them turns out to be
inside of its own copy. -/
def copyEntries (copyEntry : Route → Transfer Unit) (route : Route) (names : List String) : Transfer Unit := do
  let hadDirectory := (← get).hasDirectory
  let (hasDirectory, _) ← names.foldlM (fun ((hasDirectory : Bool), (stopped : Bool)) name => do
    if stopped then return (hasDirectory, true)
    else do
      modify fun log => { log with hasDirectory := hadDirectory, isInside := false }
      copyEntry { source := pathInside route.source name, goal := pathInside route.goal name, isOperand := false }
      let log ← get
      return (hasDirectory || log.hasDirectory, log.isInside)) (hadDirectory, false)
  modify fun log => { log with hasDirectory }

def copyDirectory (invocation : Invocation) (style : TransferStyle) (copyEntry : Bool → Route → Transfer Unit) (route : Route)
    (location : Location) (attributes : Attributes) (clearance : Clearance) : Transfer Unit := do
  let isNew := clearance.isNew || !(clearance.node.any Node.isDirectory)
  let made ← if isNew then makeGoal invocation style route attributes else pure true
  if !made then takeBack invocation style route clearance.backup
  else do
    let files ← Task.look
    if attributes.allows invocation.viewer.user .read then
      copyEntries (copyEntry isNew) route ((files.children location).map (·.1))
    else Task.complain invocation ("cannot access " ++ shownPath route.source ++ ": " ++ Errno.accessDenied.text)
    finishGoal invocation style route attributes isNew
    rememberMade invocation route

/-- Finds the source of a copy. The answer is nothing if it is not to be copied. -/
def findSource (invocation : Invocation) (style : TransferStyle) (route : Route) : Transfer (Option (Location × Node)) := do
  let files ← Task.look
  match files.examine invocation.viewer (style.follows route.isOperand) route.source with
  | .error failure => do
    Task.complain invocation ("cannot stat " ++ shownPath route.source ++ ": " ++ reason failure)
    return none
  | .ok source =>
    if source.2.isDirectory && !style.recursive then do
      Task.complain invocation ("-r not specified; omitting directory " ++ shownPath route.source)
      return none
    else if ← isRepeated invocation style route source then return none
    else return some source

/-- Finds source and goal of a copy and makes way for it. The answer is nothing if the copy
is not to be made. -/
def prepare (invocation : Invocation) (style : TransferStyle) (hint : GoalHint) (route : Route) :
    Transfer (Option ((Location × Node) × Clearance)) := do
  match ← findSource invocation style route with
  | none => return none
  | some source =>
    match ← approach invocation style hint route source with
    | none => return none
    | some clearance =>
      if ← isThroughMade invocation style route then return none
      else do
        Task.sayIf (style.verbose && !source.2.isDirectory) invocation (arrow route clearance.backup)
        return some (source, clearance)

def copyPlain (invocation : Invocation) (style : TransferStyle) (route : Route) (node : Node) (clearance : Clearance)
    (earlier : Option String) : Transfer Unit := do
  match earlier with
  | some earlier => do
    let linked ← linkFirmly invocation (style.follows route.isOperand) true earlier route
    if linked then Task.sayIf (style.verbose && !clearance.isNew) invocation ("removed " ++ shownPath route.goal)
    else takeBack invocation style route clearance.backup
  | none => do
    let copied ← copyLeaf invocation style route node clearance.isNew
    if copied then rememberMade invocation route else takeBack invocation style route clearance.backup

/-- Copies a source to a goal, at most `bound` levels deep. `above` are the directories in
which the source is being copied. -/
def copyNode (invocation : Invocation) (style : TransferStyle) (top : Route) : Nat → List Location → GoalHint → Route → Transfer Unit
  | 0, _, _, _ => pure ()
  | bound + 1, above, hint, route => do
    match ← prepare invocation style hint route with
    | none => pure ()
    | some ((location, node), clearance) => do
      let earlier ← earlierCopy style route (location, node)
      match node with
      | .directory attributes => do
        let isCopied ←
          match earlier with
          | some earlier => meetCopy invocation style top route earlier
          | none => pure true
        let isCyclic := isCopied && above.contains location
        if isCyclic then Task.complain invocation ("cannot copy cyclic symbolic link " ++ shownPath route.source)
        if isCopied && !isCyclic then
          copyDirectory invocation style
            (fun isNew => copyNode invocation style top bound (location :: above) (if isNew then .missing else .unknown))
            route location attributes clearance
        else takeBack invocation style route clearance.backup
      | node => copyPlain invocation style route node clearance earlier

end Transfer

end PipeShell.Utility
