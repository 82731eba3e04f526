import PipeShell.Utility.Backup
import PipeShell.Utility.Canonical

/-! # Linking

A file gets a further name, or a path becomes a link that leads to another one. -/

set_option autoImplicit false

namespace PipeShell.Utility

open PipeShell.System

structure LinkStyle where
  symbolic : Bool := false
  /-- A source that is a link is followed. -/
  follows : Bool := false
  /-- A link tells where it leads as seen from where it is. -/
  relative : Bool := false
  force : Bool := false
  /-- What is there already goes away if somebody agrees. -/
  asks : Bool := false
  /-- Directories may get further names, as far as that is possible. -/
  takesDirectories : Bool := false
  backup : BackupStyle := {}
  verbose : Bool := false
  deriving DecidableEq, Repr

namespace LinkStyle

/-- Makes the link; what is in its place may go away if it is to be replaced. -/
def add (style : LinkStyle) (viewer : Viewer) (replaces : Bool) (source goal : String) (files : FileSystem) :
    Except Failure FileSystem :=
  if style.symbolic then files.addLink viewer replaces source goal
  else files.link viewer style.follows replaces source goal

/-- What a link at a path has to tell so that it leads to the source. -/
def seenFrom (files : FileSystem) (viewer : Viewer) (source goal : String) : String :=
  let place (path : String) : Option Location :=
    (canonicalPath files viewer { missing := .any } path).toOption
  match place (FileSystem.directoryPath goal), place source with
  | some directory, some location => relativePath directory location
  | _, _ => source

def clears (style : LinkStyle) : Bool := style.force || style.asks || style.backup.isWanted

end LinkStyle

structure LinkRequest where
  source : String
  goal : String
  /-- How it went to make it where nothing is, if that has been tried. -/
  tried : Option (Except Failure Unit) := none
  /-- The further names that have been made so far, if this matters. -/
  made : Option (List Location) := none
  /-- The link gets no name in its directory. -/
  isNameless : Bool := false

/-- What happens to a link whose place may be taken. -/
inductive LinkPlace where
  /-- It is not made, and all is said about it. -/
  | given
  /-- It is made; what is there goes away if `replaces`. -/
  | clear (replaces : Bool) (backup : Option String)
  deriving DecidableEq, Repr

def clearPlace (invocation : Invocation) (style : LinkStyle) (request : LinkRequest) (source : String) (mayBeTaken : Bool) :
    Task LinkPlace := do
  let files ← Task.look
  let viewer := invocation.viewer
  let complain (text : String) : Task LinkPlace := do
    Task.complain invocation text
    return .given
  if !style.clears || request.isNameless then return .clear false none
  else
    match files.examine viewer false request.goal with
    | .error failure =>
      if failure = .os .noEntry then return .clear false none
      else complain ("failed to access " ++ shownPath request.goal ++ ": " ++ reason failure)
    | .ok goal =>
      let isMade : Bool := request.made.any fun made => made.contains goal.1
      let isSame : Bool :=
        (style.force || (!style.symbolic && style.backup.isWanted)) && (!style.backup.isWanted || !style.symbolic) &&
          (match files.examine viewer (style.symbolic || style.follows) source with
            | .ok found =>
              FileSystem.sameNode found goal && (files.nameCount found.2 = 1 || files.sameEntry viewer source request.goal)
            | .error _ => false)
      if goal.2.isDirectory then complain (pathText request.goal ++ ": cannot overwrite directory")
      else if isMade then complain ("will not overwrite just-created " ++ shownPath request.goal ++ " with " ++ shownPath source)
      else if isSame then complain (shownPath source ++ " and " ++ shownPath request.goal ++ " are the same file")
      else if !mayBeTaken then return .clear true none
      else do
        let agreed ← if style.asks then Task.ask invocation ("replace " ++ shownPath request.goal) else pure true
        if !agreed then return .given
        else if !style.backup.isWanted then return .clear true none
        else do
          let path := style.backup.pathOf files viewer request.goal
          match ← Task.change fun files => files.rename viewer false request.goal path with
          | .ok () => return .clear true (some path)
          | .error failure =>
            if failure = .os .noEntry then return .clear false none
            else complain ("cannot backup " ++ shownPath request.goal ++ ": " ++ reason failure)

def linkComplaint (style : LinkStyle) (source goal : String) (failure : Failure) : String :=
  let isFull := failure = .os .alreadyExists || failure = .os .noSpace
  let arrow :=
    if style.symbolic then (if source.isEmpty || failure = .os .nameTooLong then " -> " ++ shownPath source else "")
    else if isFull then "" else " => " ++ shownPath source
  "failed to create " ++ (if style.symbolic then "symbolic link " else "hard link ") ++ shownPath goal ++ arrow ++ ": " ++
    reason failure

def makeLink (invocation : Invocation) (style : LinkStyle) (request : LinkRequest) : Task Bool := do
  let viewer := invocation.viewer
  let first : Option (Except Failure Unit) ←
    match request.tried with
    | some outcome => pure (some outcome)
    | none =>
      if style.symbolic && style.relative then pure none
      else do
        let outcome ← Task.change (style.add viewer false request.source request.goal)
        pure (some outcome)
  let files ← Task.look
  let isDone : Bool := first.any fun outcome => outcome.toBool
  let origin : Except Failure (Option Node) :=
    if style.symbolic || isDone then .ok none
    else (files.examine viewer style.follows request.source).map fun found => some found.2
  match origin with
  | .error failure => do
    Task.complain invocation ("failed to access " ++ shownPath request.source ++ ": " ++ reason failure)
    return false
  | .ok node =>
    if node.any Node.isDirectory && !style.takesDirectories then do
      Task.complain invocation (pathText request.source ++ ": hard link not allowed for directory")
      return false
    else do
      let source := if style.relative && !isDone then LinkStyle.seenFrom files viewer request.source request.goal else request.source
      let mayBeTaken : Bool :=
        match first with
        | some (.error failure) => failure = .os .alreadyExists
        | _ => true
      let place ← if isDone then pure (.clear false none) else clearPlace invocation style request source mayBeTaken
      match place with
      | .given => return false
      | .clear replaces backup => do
        let outcome ←
          match first with
          | some (.ok ()) => pure (.ok ())
          | some (.error failure) =>
            if failure = .os .alreadyExists && replaces then Task.change (style.add viewer replaces source request.goal)
            else pure (.error failure)
          | none => Task.change (style.add viewer replaces source request.goal)
        match outcome with
        | .ok () => do
          let aside := (backup.map fun path => shownPath path ++ " ~ ").getD ""
          Task.sayIf style.verbose invocation
            (aside ++ shownPath request.goal ++ (if style.symbolic then " -> " else " => ") ++ shownPath source)
          return true
        | .error failure => do
          Task.complain invocation (linkComplaint style source request.goal failure)
          match backup with
          | some path => do
            let _ ← Task.change fun files => files.rename viewer false path request.goal
          | none => pure ()
          return false

def linkTable : OptionTable := {
  flags := ['b', 'd', 'F', 'f', 'i', 'n', 'r', 's', 'v', 'L', 'P', 'T'], valued := ['t', 'S'], optional := ['^']
  long := [("backup", '^'), ("directory", 'F'), ("no-dereference", 'n'), ("no-target-directory", 'T'), ("force", 'f'),
    ("interactive", 'i'), ("suffix", 'S'), ("target-directory", 't'), ("logical", 'L'), ("physical", 'P'), ("relative", 'r'),
    ("symbolic", 's'), ("verbose", 'v')] }

def LinkStyle.ofOptions (options : Options) : LinkStyle :=
  let last := options.lastOf? ['f', 'i']
  { symbolic := options.has 's', follows := options.lastOf? ['L', 'P'] == some 'L', relative := options.has 'r'
    force := last == some 'f', asks := last == some 'i', takesDirectories := options.has 'd' || options.has 'F', verbose := options.has 'v' }

def linkTargetFault? (files : FileSystem) (viewer : Viewer) (keepsLinks : Bool) (path : String) : Option Failure :=
  match files.examine viewer (!keepsLinks) path with
  | .ok (_, node) => if node.isDirectory then none else some (.os .notDirectory)
  | .error failure => some failure

def linkOperands (invocation : Invocation) (options : Options) (style : LinkStyle) (target : Option String)
    (tried : Option (Except Failure Unit)) (operands : List String) : Task Unit :=
  match BackupStyle.ofOptions invocation.environment options with
  | .error refusal => Task.stop (refuseFor invocation refusal)
  | .ok backup =>
    let style := { style with backup }
    match target, operands with
    | some directory, sources => do
      let isTracked := sources.length > 1 && style.force && !style.symbolic && style.backup.kind != .numbered
      let _ ← sources.foldlM (fun (made : List Location) source => do
        let name := lastComponent source
        let goal := pathInside directory (if name = "" then "" else withoutSlashes name)
        let known := if isTracked then some made else none
        let done ← makeLink invocation style { source, goal, made := known, isNameless := name = "" }
        let files ← Task.look
        match done, files.examine invocation.viewer false goal with
        | true, .ok (location, _) => return location :: made
        | _, _ => return made) ([] : List Location)
    | none, [source, goal] => do
      let _ ← makeLink invocation style { source, goal, tried }
    | none, _ => pure ()

def link : Utility := fun invocation =>
  .look fun files =>
    let viewer := invocation.viewer
    let check : Char → String → Option Refusal := fun letter value =>
      if letter != 't' then none
      else
        match files.stat viewer value with
        | .error failure => some { message := "failed to access " ++ shownPath value ++ ": " ++ reason failure, hinted := false }
        | .ok (_, node) =>
          if node.isDirectory then none
          else some { message := "target " ++ shownPath value ++ " is not a directory", hinted := false }
    withOptions { linkTable with check } invocation 1 fun options =>
      let style := LinkStyle.ofOptions options
      let targets := options.given.filter (·.1 = 't')
      let target := options.value? 't'
      let last := options.operands.getLast?.getD ""
      if targets.length > 1 then fail invocation "multiple target directories specified"
      else if options.operands.isEmpty then refuse invocation "missing file operand"
      else if style.relative && !style.symbolic then fail invocation "cannot do --relative without --symbolic"
      else if options.has 'T' then
        match target, options.operands with
        | some _, _ => fail invocation "cannot combine --target-directory and --no-target-directory"
        | none, [source, goal] => Task.run (linkOperands invocation options style none none [source, goal])
        | none, [only] => refuse invocation ("missing destination file operand after " ++ shownPath only)
        | none, operands => refuse invocation ("extra operand " ++ shownPath ((operands[2]?).getD ""))
      else
        match target, options.operands with
        | some target, operands =>
          match linkTargetFault? files viewer (options.has 'n') target with
          | none => Task.run (linkOperands invocation options style (some target) none operands)
          | some failure => fail invocation ("target " ++ shownPath target ++ ": " ++ reason failure)
        | none, [only] => Task.run (linkOperands invocation options style (some ".") none [only])
        | none, [source, goal] =>
          Task.run do
            let tried : Option (Except Failure Unit) ←
              if style.relative then pure none
              else do
                let outcome ← Task.change (style.add viewer false source goal)
                pure (some outcome)
            let isOpen : Bool :=
              match tried with
              | none => true
              | some (.ok ()) => false
              | some (.error failure) =>
                failure = .os .alreadyExists || failure = .os .notDirectory || failure = .os .invalid
            match isOpen, linkTargetFault? files viewer (options.has 'n') goal with
            | true, none => linkOperands invocation options style (some goal) none [source]
            | _, _ => linkOperands invocation options style none tried [source, goal]
        | none, operands =>
          match linkTargetFault? files viewer (options.has 'n') last with
          | none => Task.run (linkOperands invocation options style (some last) none operands.dropLast)
          | some failure => fail invocation ("target " ++ shownPath last ++ ": " ++ reason failure)

end PipeShell.Utility
