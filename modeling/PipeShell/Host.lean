import PipeShell.Host.Fresh
import PipeShell.Host.Lookup
import PipeShell.Launcher
import PipeShell.Script.Interpreter
import PipeShell.Utility.Batches
import PipeShell.Utility.Condition
import PipeShell.Utility.Copying
import PipeShell.Utility.Creation
import PipeShell.Utility.Cut
import PipeShell.Utility.Excerpt
import PipeShell.Utility.Expression
import PipeShell.Utility.Filter
import PipeShell.Utility.Following
import PipeShell.Utility.Lines
import PipeShell.Utility.Linking
import PipeShell.Utility.Listing
import PipeShell.Utility.Status
import PipeShell.Utility.Moving
import PipeShell.Utility.Numbering
import PipeShell.Utility.Permissions
import PipeShell.Utility.Printing
import PipeShell.Utility.Removal
import PipeShell.Utility.Search
import PipeShell.Utility.Sequence
import PipeShell.Utility.Sort
import PipeShell.Utility.Translate
import PipeShell.Utility.Unique

/-! # Starting programs

How a command becomes a process: the directory is entered, the program is looked
up, and what is found gets its words, its environment and a number. Each of these
steps may fail with an error number, and the caller sees nothing but that
number.

The programs are those of a small system, so that lines have something to start. How
lines are carried out does not depend on them: whatever is proved of it holds for every
host, and a host is free in what it starts. -/

set_option autoImplicit false

/-! ## The utilities -/

namespace PipeShell.Utility

/-- The utilities that start no other program, by name. -/
def catalog : List (String × Utility) :=
  [("[", test), ("basename", printBasename), ("cat", cat), ("chmod", changeMode), ("cp", copy), ("cut", cut),
    ("dir", listColumns), ("dirname", printDirname), ("echo", echo), ("expr", express), ("false", flop),
    ("fold", foldLines), ("grep", search), ("head", head), ("ln", link), ("ls", list),
    ("mkdir", makeDirectories), ("mv", move), ("nl", numberLines), ("paste", paste), ("printenv", printVariables),
    ("printf", printf), ("pwd", printDirectory), ("readlink", showLink), ("realpath", showRealPath),
    ("rev", reverseChars), ("rm", remove), ("rmdir", removeDirectories), ("seq", countUp), ("sleep", sleep),
    ("sort", sort), ("stat", tellStatus), ("tac", reverseLines), ("tail", tail), ("tee", tee), ("test", test),
    ("touch", touch), ("tr", translate), ("true", succeed), ("uniq", unique), ("unlink", unlink), ("wc", count),
    ("whoami", printUser), ("yes", yes)]

end PipeShell.Utility

/-! ## Starting them -/

namespace PipeShell.Host

open PipeShell.System

def starterNames : List String := ["dash", "env", "sh", "xargs"]

def programNames : List String := starterNames ++ Utility.catalog.map (·.1)

def behaviour (start : Starter) (name : String) : Utility :=
  match name with
  | "sh" => Script.interpret start find
  | "dash" => Script.interpret start find
  | "env" => Utility.runInEnvironment start
  | "xargs" => Utility.runOnWords start
  | name => (Utility.catalog.lookup name).getD Utility.flop

/-- The behaviour of what a call starts. Programs start programs at most `bound`
calls deep. -/
def begin (bound : Nat) (call : Call) (files : FileSystem) : Except Failure Program :=
  match bound with
  | 0 => .error (.os .noEntry)
  | bound + 1 =>
    (locate files call).map fun image =>
      behaviour (begin bound) image.program
        { call.toInvocation with name := image.words.headD "", arguments := image.words.tail }

def enter (user : User) (here : Location) (files : FileSystem) (directory : String) : Except Failure Location :=
  match files.stat { user, directory := here } directory with
  | .error failure => .error failure
  | .ok (location, node) =>
    if !node.isDirectory then .error (.os .notDirectory)
    else if !(files.attributesOf node).admits user then .error (.os .accessDenied)
    else .ok location

/-- Starts a command for a user as a process with a number. The directory is entered
first, so that one that is missing fails as a missing program would. -/
def start (user : User) (parent : Nat) (here : Location) (environment : Environment) (pid : Nat) (files : FileSystem)
    (command : Command) : Except Failure Program :=
  if !command.isSendable then .error .nulInCommand
  else
    match enter user here files command.directory with
    | .error failure => .error failure
    | .ok location =>
      begin Program.lifetime {
        name := command.program, arguments := command.arguments, environment
        viewer := { user, directory := location }, pid, parent } files

end PipeShell.Host
