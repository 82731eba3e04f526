import PipeShell.Utility.Backup

/-! # From one path to another

What copying and moving have in common: how it is done, what is remembered of it, and
what happens when the goal is there already. A file is never replaced by itself, nor
one that has just been made by another one. -/

set_option autoImplicit false

namespace PipeShell.Utility

open PipeShell.System

inductive LinkPolicy where
  | kept
  | operands
  | followed
  deriving DecidableEq, Repr

inductive Overwriting where
  | allowed
  | asked
  | refused
  deriving DecidableEq, Repr

structure TransferStyle where
  moves : Bool := false
  /-- Directories are copied with all that is below them. -/
  recursive : Bool := false
  links : LinkPolicy := .followed
  overwriting : Overwriting := .allowed
  /-- What is there already stays unless it is older. -/
  updates : Bool := false
  replaces : Bool := false
  removesFirst : Bool := false
  backup : BackupStyle := {}
  /-- The directory that the operands go into, if they do. -/
  target : Option String := none
  /-- Further names take the place of copies. -/
  hardLinks : Bool := false
  /-- Symbolic links take the place of copies. -/
  symbolicLinks : Bool := false
  /-- Names of one file become names of one copy. -/
  joinsNames : Bool := false
  keepsModes : Bool := false
  keepsOwners : Bool := false
  /-- The mode of what is created has nothing to do with that of the source. -/
  freshModes : Bool := false
  copiesData : Bool := true
  readsDevices : Bool := true
  verbose : Bool := false
  deriving DecidableEq, Repr

/-- What is remembered while operands are copied or moved. -/
structure TransferLog where
  isLong : Bool := false
  /-- The sources so far, with their paths. -/
  taken : List (String × (Location × Node)) := []
  /-- What has been made for the operands so far. -/
  made : List Location := []
  /-- Where files and directories have been copied to. -/
  copied : List ((Location × Node) × String) := []
  /-- A directory has been made for the operand. -/
  hasDirectory : Bool := false
  /-- A directory turned out to be copied into itself. -/
  isInside : Bool := false

abbrev Transfer := StateT TransferLog Task

structure Route where
  source : String
  goal : String
  isOperand : Bool := true
  deriving DecidableEq, Repr

/-- The path under which the goal is looked up: without a name it is the working
directory. -/
def Route.reached (route : Route) : String := if route.goal.isEmpty then "." else route.goal

/-- A source and a goal that is there already. -/
inductive Encounter where
  | clear
  | settled
  | same
  deriving DecidableEq, Repr

namespace TransferStyle

def inTarget? (style : TransferStyle) (goal : String) : Option (String × String) :=
  style.target.bind fun directory =>
    let front := pathInside directory ""
    if front.toList.isPrefixOf goal.toList then some (front, String.ofList (goal.toList.drop front.length)) else none

/-- A goal as it is found from inside the directory that the operands go into: a link that leads
there has been followed. -/
def entered (style : TransferStyle) (goal : String) : String :=
  ((style.inTarget? goal).map fun (front, rest) => front ++ "./" ++ rest).getD goal

def follows (style : TransferStyle) (isOperand : Bool) : Bool :=
  style.links = .followed || (style.links = .operands && isOperand)

/-- What it means that a source with links followed, or not, meets a goal, when neither
of them is a link. -/
def encounterFiles (style : TransferStyle) (files : FileSystem) (viewer : Viewer) (route : Route)
    (source sourceEntry goalEntry : Location × Node) : Encounter :=
  let isLink (found : Location × Node) : Bool := (found.2 matches .link _)
  let isSameEntry := files.sameEntry viewer route.source (style.entered route.goal)
  let isHard := files.nameCount goalEntry.2 > 1
  let isFree := !isLink sourceEntry && !isLink goalEntry
  let isSame := FileSystem.sameNode sourceEntry goalEntry
  if (style.moves || style.removesFirst) && isLink goalEntry then .clear
  else if (style.moves || style.removesFirst) && isSame && isHard && !isSameEntry then
    (if style.moves then .same else .clear)
  else if isFree && !isSame then .clear
  else if isFree && style.hardLinks then .settled
  else
    let led := if style.moves && isLink source && isHard then (files.canonical viewer route.source).toOption else none
    match led with
    | some location => if files.sameEntry viewer (Location.path location) (style.entered route.goal) then .same else .clear
    | none =>
      if style.symbolicLinks && isLink goalEntry then .clear
      else if style.links != .kept then .same
      else
        let followed (entry : Location × Node) (path : String) : Option (Location × Node) :=
          if isLink entry then (files.stat viewer path).toOption else some entry
        match followed sourceEntry route.source, followed goalEntry route.goal with
        | some source, some goal =>
          if !FileSystem.sameNode source goal then .clear
          else if style.hardLinks then (if isLink goalEntry then .clear else .settled)
          else .same
        | _, _ => .clear

def encounter (style : TransferStyle) (files : FileSystem) (viewer : Viewer) (route : Route)
    (source goal : Location × Node) : Encounter :=
  let isLink (found : Location × Node) : Bool := (found.2 matches .link _)
  let isSame := FileSystem.sameNode source goal
  let isSameEntry := files.sameEntry viewer route.source (style.entered route.goal)
  if isSame && style.hardLinks then .settled
  else if style.links = .kept && isLink source && isLink goal then
    if isSameEntry then .same
    else if style.backup.isWanted || !isSame then .clear
    else if style.moves then .same
    else .settled
  else if style.links != .kept && !isSame then .clear
  else
    let entries : Option ((Location × Node) × (Location × Node)) :=
      if style.links = .kept then some (source, goal)
      else
        match files.examine viewer false route.source, files.examine viewer false route.goal with
        | .ok source, .ok goal => some (source, goal)
        | _, _ => none
    match entries with
    | none => .clear
    | some (sourceEntry, goalEntry) =>
      if style.links != .kept && isLink sourceEntry && isLink goalEntry && style.removesFirst then .clear
      else if style.backup.isWanted then
        if FileSystem.sameNode sourceEntry goalEntry then (if isSameEntry then .same else .clear)
        else if !style.moves && style.links != .kept && isLink sourceEntry && !isLink goalEntry then .same
        else .clear
      else style.encounterFiles files viewer route source sourceEntry goalEntry

end TransferStyle

/-- What is known of a goal when the way to it is free. -/
structure Clearance where
  isNew : Bool
  node : Option Node := none
  /-- What was there is found under this path. -/
  backup : Option String := none
  deriving DecidableEq, Repr

namespace Transfer

def arrow (route : Route) (backup : Option String) : String :=
  shownPath route.source ++ " -> " ++ shownPath route.goal ++
    (match backup with
      | some path => " (backup: " ++ shownPath path ++ ")"
      | none => "")

def rememberMade (invocation : Invocation) (route : Route) : Transfer Unit := do
  let log ← get
  if route.isOperand && log.isLong then
    match (← Task.look).place invocation.viewer route.goal with
    | .ok place => set { log with made := place.location :: log.made }
    | .error _ => pure ()

def isMade (log : TransferLog) (files : FileSystem) (viewer : Viewer) (route : Route) : Bool :=
  log.isLong && route.isOperand &&
    (match files.place viewer route.goal with
      | .ok place => log.made.contains place.location
      | .error _ => false)

/-- Moves what is at the goal aside. The answer is where to, unless this fails. If all backups
have a suffix, what lies in the directory that the operands go into is looked for there, but its
backup is made in the working directory. -/
def setAside (invocation : Invocation) (style : TransferStyle) (route : Route) : Transfer (Option Clearance) := do
  let path := style.backup.pathOf (← Task.look) invocation.viewer route.goal
  let aside := if style.backup.kind = .simple then ((style.inTarget? path).map (·.2)).getD path else path
  match ← Task.change fun files => files.rename invocation.viewer false route.goal aside with
  | .ok () => return some { isNew := true, backup := some path }
  | .error failure =>
    if failure = .os .noEntry then return some { isNew := true }
    else do
      Task.complain invocation ("cannot backup " ++ shownPath route.goal ++ ": " ++ reason failure)
      return none

def makeWay (invocation : Invocation) (style : TransferStyle) (route : Route) (source goal : Location × Node) :
    Transfer (Option Clearance) := do
  let files ← Task.look
  let viewer := invocation.viewer
  let (ofDirectory, toDirectory) := (source.2.isDirectory, goal.2.isDirectory)
  let complain (text : String) : Transfer (Option Clearance) := do
    Task.complain invocation text
    return none
  let encounter := if style.overwriting = .refused then .clear else style.encounter files viewer route source goal
  let (sourceText, goalText) := (shownPath route.source, shownPath route.goal)
  if encounter = .same then complain (sourceText ++ " and " ++ goalText ++ " are the same file")
  else if style.updates && !ofDirectory then return none
  else do
    let isAsked := style.moves || !ofDirectory
    let agreed ←
      if !isAsked || style.overwriting = .allowed then pure true
      else if style.overwriting = .refused then pure false
      else Task.ask invocation ("overwrite " ++ goalText)
    if !agreed || encounter = .settled then return none
    else if ofDirectory && !toDirectory && !(style.moves && style.backup.isWanted) then
      complain ("cannot overwrite non-directory " ++ goalText ++ " with directory " ++ sourceText)
    else if !toDirectory && style.backup.kind != .numbered && isMade (← get) files viewer route then
      complain ("will not overwrite just-created " ++ goalText ++ " with " ++ sourceText)
    else if !ofDirectory && toDirectory && !(style.moves && style.backup.isWanted) then
      complain ("cannot overwrite directory " ++ goalText ++ " with non-directory")
    else
      let last := withoutSlashes (lastComponent route.source)
      let isLinked := style.joinsNames && files.nameCount goal.2 > 1
      let isOdd := style.links = .kept && !source.2.isFile
      if style.backup.isWanted && last != "." && last != ".." && (style.moves || !toDirectory) then
        if style.backup.destroysSource files viewer source route.source route.goal then
          complain ("backing up " ++ goalText ++ " might destroy source;  " ++ sourceText ++
            (if style.moves then " not moved" else " not copied"))
        else setAside invocation style route
      else if !toDirectory && !style.moves && (style.removesFirst || (style.copiesData && (isLinked || isOdd))) then do
        let outcome ← Task.change fun files => files.unlink viewer route.goal
        match outcome with
        | .error failure =>
          if failure = .os .noEntry then return some { isNew := true }
          else complain ("cannot remove " ++ goalText ++ ": " ++ reason failure)
        | .ok () => do
          Task.sayIf style.verbose invocation ("removed " ++ goalText)
          return some { isNew := true }
      else return some { isNew := false, node := some goal.2 }

def takeBack (invocation : Invocation) (style : TransferStyle) (route : Route) (backup : Option String) : Transfer Unit :=
  match backup with
  | none => pure ()
  | some path => do
    match ← Task.change fun files => files.rename invocation.viewer false path route.goal with
    | .ok () =>
      Task.sayIf style.verbose invocation (shownPath path ++ " -> " ++ shownPath route.goal ++ " (unbackup)")
    | .error failure =>
      Task.complain invocation ("cannot un-backup " ++ shownPath route.goal ++ ": " ++ reason failure)

end Transfer

def targetOptions (table : OptionTable) : OptionTable :=
  { table with
    flags := ['T', 'b'] ++ table.flags, valued := ['t', 'S'] ++ table.valued, optional := '^' :: table.optional
    long := [("no-target-directory", 'T'), ("target-directory", 't'), ("backup", '^'), ("suffix", 'S')] ++ table.long }

inductive Target where
  | directory (path : String) (sources : List String)
  /-- The only operand goes to a path. -/
  | path (source goal : String)
  deriving DecidableEq, Repr

def targetFault? (files : FileSystem) (viewer : Viewer) (path : String) : Option Failure :=
  match files.stat viewer path with
  | .ok (_, node) => if node.isDirectory then none else some (.os .notDirectory)
  | .error failure => some failure

def Target.ofOptions (invocation : Invocation) (options : Options) (files : FileSystem) : Except Program Target :=
  let targets := (options.given.filter (·.1 = 't')).map (·.2)
  match targets, options.operands with
  | [], [] | [_], [] => .error (refuse invocation "missing file operand")
  | [], [only] => .error (refuse invocation ("missing destination file operand after " ++ shownPath only))
  | [target], operands =>
    if options.has 'T' then
      .error (fail invocation "cannot combine --target-directory (-t) and --no-target-directory (-T)")
    else
      match targetFault? files invocation.viewer target with
      | some failure => .error (fail invocation ("target directory " ++ shownPath target ++ ": " ++ reason failure))
      | none => .ok (.directory target operands)
  | [], source :: goal :: rest =>
    let last := (goal :: rest).getLast?.getD goal
    match options.has 'T', rest with
    | true, [] => .ok (.path source goal)
    | true, extra :: _ => .error (refuse invocation ("extra operand " ++ shownPath extra))
    | false, rest =>
      match targetFault? files invocation.viewer last, rest with
      | none, _ => .ok (.directory last (source :: goal :: rest).dropLast)
      | some _, [] => .ok (.path source goal)
      | some failure, _ => .error (fail invocation ("target " ++ shownPath last ++ ": " ++ reason failure))
  | _ :: _ :: _, _ => .error (fail invocation "multiple target directories specified")

end PipeShell.Utility
