import PipeShell.Utility.Transfer

/-! # Moving

What a path names gets another path. First it is moved where nothing is; if something
is there, it has to make way. -/

set_option autoImplicit false

namespace PipeShell.Utility

open PipeShell.System

def moveFreely (invocation : Invocation) (route : Route) : Task (Except Failure Unit) :=
  Task.change fun files => files.rename invocation.viewer true route.source route.goal

namespace Transfer

def finishMove (invocation : Invocation) (style : TransferStyle) (route : Route) (backup : Option String)
    (outcome : Except Failure Unit) : Transfer Unit := do
  match outcome with
  | .ok () => do
    Task.sayIf style.verbose invocation ("renamed " ++ arrow route backup)
    rememberMade invocation route
  | .error failure =>
    Task.complain invocation
      (if failure = .os .invalid then
        "cannot move " ++ shownPath route.source ++ " to a subdirectory of itself, " ++ shownPath route.goal
      else "cannot move " ++ shownPath route.source ++ " to " ++ shownPath route.goal ++ ": " ++ reason failure)

/-- Moves a source to a goal. `tried` tells how it went to move it where nothing is, if
that has been tried. -/
def move (invocation : Invocation) (style : TransferStyle) (tried : Option (Except Failure Unit)) (route : Route) :
    Transfer Unit := do
  let outcome ←
    match tried with
    | some outcome => pure outcome
    | none => moveFreely invocation route
  match outcome with
  | .ok () => finishMove invocation style route none outcome
  | .error failure =>
    if failure = .os .alreadyExists && style.overwriting = .refused then pure ()
    else do
      let files ← Task.look
      match files.examine invocation.viewer false route.source, files.examine invocation.viewer false route.reached with
      | .error failure, _ => Task.complain invocation ("cannot stat " ++ shownPath route.source ++ ": " ++ reason failure)
      | .ok source, .error missing =>
        if missing = .os .noEntry then do
          let log ← get
          let isKnown := log.copied.any fun (found, goal) => FileSystem.sameNode found source && goal == route.goal
          if failure = .os .invalid && isKnown then
            Task.mention invocation ("warning: source directory " ++ shownPath route.source ++ " specified more than once")
          else do
            set { log with copied := (source, route.goal) :: log.copied }
            finishMove invocation style route none outcome
        else Task.complain invocation ("cannot stat " ++ shownPath route.goal ++ ": " ++ reason missing)
      | .ok source, .ok goal => do
        match ← makeWay invocation style route source goal with
        | none => pure ()
        | some clearance => do
          let outcome ← Task.change fun files => files.rename invocation.viewer false route.source route.reached
          finishMove invocation style route clearance.backup outcome

end Transfer

def moveTable : OptionTable :=
  targetOptions {
    flags := ['f', 'n', 'v', 'i', 'u', 'Z']
    long := [("force", 'f'), ("no-clobber", 'n'), ("verbose", 'v'), ("interactive", 'i'), ("update", 'u'), ("context", 'Z'),
      ("strip-trailing-slashes", ')')] }

def TransferStyle.ofMoveOptions (options : Options) : TransferStyle :=
  let overwriting : Overwriting :=
    match options.lastOf? ['f', 'n', 'i'] with
    | some 'n' => .refused
    | some 'i' => .asked
    | _ => .allowed
  { moves := true, recursive := true, links := .kept, overwriting, updates := options.has 'u' && overwriting != .refused
    keepsModes := true, keepsOwners := true, joinsNames := true, verbose := options.has 'v' }

def moveOperands (invocation : Invocation) (options : Options) (target : Target) (tried : Option (Except Failure Unit)) :
    Task Unit :=
  let style := TransferStyle.ofMoveOptions options
  let strip (path : String) : String := if options.has ')' then withoutSlashes path else path
  if BackupStyle.isAsked options && style.overwriting = .refused then
    Task.stop (refuse invocation "options --backup and --no-clobber are mutually exclusive")
  else
    match BackupStyle.ofOptions invocation.environment options with
    | .error refusal => Task.stop (refuseFor invocation refusal)
    | .ok backup =>
      let style := { style with backup }
      match target with
      | .path source goal => do
        let _ ← (Transfer.move invocation style tried { source := strip source, goal := strip goal }).run {}
      | .directory directory sources => do
        let style := { style with target := some directory }
        let act (source : String) : Transfer Unit :=
          let source := strip source
          let name := lastComponent source
          let goal := pathInside directory (if name = "" then "" else withoutSlashes name)
          Transfer.move invocation style none { source, goal }
        let _ ← (sources.forM act).run { isLong := sources.length > 1 }

def move : Utility := fun invocation =>
  withOptions moveTable invocation 1 fun options =>
    Task.run do
      match options.operands, options.has 'T' || options.has 't' with
      | [source, goal], false => do
        let outcome ← moveFreely invocation { source, goal }
        let files ← Task.look
        match outcome, targetFault? files invocation.viewer goal with
        | .error _, none => moveOperands invocation options (.directory goal [source]) none
        | outcome, _ => moveOperands invocation options (.path source goal) (some outcome)
      | _, _ => do
        let files ← Task.look
        match Target.ofOptions invocation options files with
        | .error program => Task.stop program
        | .ok target => moveOperands invocation options target none

end PipeShell.Utility
