import PipeShell.Process.Invocation
import PipeShell.Script.Arithmetic
import PipeShell.Script.Fields
import PipeShell.Script.Job
import PipeShell.Script.Limit
import PipeShell.Script.Parser

/-! # The state of a script

What a script knows while it runs, and how it reads and writes. -/

set_option autoImplicit false

namespace PipeShell.Script

open PipeShell.System

structure Context where
  /-- The behaviour of a program by the way it is called. -/
  start : Starter
  /-- The path of the program that a name means. -/
  find : Option String → Viewer → String → FileSystem → Except Errno String
  /-- The number of the process that the script began in. -/
  pid : Nat
  /-- The number of the process that started the script. -/
  parent : Nat
  /-- The number of the process itself, which may be a copy. -/
  own : Nat
  /-- The number of the process that started the process itself. -/
  above : Nat
  /-- The signals that were ignored from the beginning, and will be. -/
  deaf : List Nat := []

structure Variable where
  /-- Its text; nothing if it is not set. -/
  value : Option String
  exported : Bool := false
  fixed : Bool := false
  deriving DecidableEq, Repr

structure State where
  name : String
  /-- The built-in command that is being carried out. -/
  command : Option String := none
  line : Nat := 1
  /-- The line up to which the text has been read that is being carried out. -/
  readLine : Nat := 1
  /-- The line up to which the file or descriptor has been read that the script comes from. -/
  inputLine : Nat := 1
  positional : List String
  bindings : List (String × Variable)
  functions : List (String × Command) := []
  aliases : List (String × String) := []
  /-- The texts of the script that redirections read, by number. -/
  documents : List (Nat × Word) := []
  nextDocument : Nat := 0
  /-- The letters of the options that are set. -/
  options : List Char := []
  status : Nat := 0
  /-- The status of the last substituted command, if there was one. -/
  substituted : Option Nat := none
  viewer : Viewer
  /-- The path of the working directory, as it was entered. -/
  directory : String
  /-- For each function that is being carried out, the variables of its own with
  what they were outside. -/
  frames : List (List (String × Option Variable)) := []
  /-- The number of the word that options are taken from next. -/
  optionIndex : Nat := 1
  /-- How far the word before was read, if it was not read to its end. -/
  optionOffset : Option Nat := none
  /-- The commands that were sent off, the newest first. -/
  jobs : List Job := []
  /-- The number of the process that was sent off last. -/
  lastSent : Option Nat := none
  /-- The names of programs that were found by searching. -/
  found : List String := []
  limits : List Limit := Limit.standard
  /-- What to do when a signal arrives; for 0, at the end of the script. -/
  traps : List (Nat × String) := []
  /-- The signals that have arrived but were not yet dealt with. -/
  pending : List Nat := []
  /-- The status that a script leaves with unless the action for a signal says
  otherwise, while such an action is being carried out. -/
  held : Option Nat := none

abbrev Next := State → Program

namespace State

def binding? (state : State) (name : String) : Option Variable := state.bindings.lookup name

def lookup? (state : State) (name : String) : Option String := (state.binding? name).bind Variable.value

def has (state : State) (option : Char) : Bool := state.options.contains option

def putIn {α : Type} (name : String) (held : α) : List (String × α) → List (String × α)
  | [] => [(name, held)]
  | (key, old) :: rest => if key == name then (name, held) :: rest else (key, old) :: putIn name held rest

def put (state : State) (name : String) (held : Variable) : State :=
  { state with bindings := putIn name held state.bindings }

def erase (state : State) (name : String) : State :=
  { state with bindings := state.bindings.filter (·.1 != name) }

def assign? (state : State) (name value : String) : Option State :=
  let old := (state.binding? name).getD { value := none }
  if old.fixed then none
  else
    let state := state.put name { old with value := some value, exported := old.exported || state.has 'a' }
    some (if name == "OPTIND" then { state with optionIndex := (value.toNat?).getD 1, optionOffset := none }
      else if name == "PATH" then { state with found := [] }
      else state)

def assign (state : State) (name value : String) : State := (state.assign? name value).getD state

def unset? (state : State) (name : String) : Option State :=
  match state.binding? name with
  | none => some state
  | some old => if old.fixed then none else some (state.erase name)

def defaultSeparators : String := " \t\n"

/-- The variables that every script has. The first ones keep their order among
the others that programs get to see. -/
def standardVariables (context : Context) (viewer : Viewer) : List (String × Variable) :=
  [("PATH", ⟨some "/usr/local/sbin:/usr/local/bin:/usr/sbin:/usr/bin:/sbin:/bin", false, false⟩),
    ("IFS", ⟨some defaultSeparators, false, false⟩), ("OPTIND", ⟨some "1", false, false⟩),
    ("PPID", ⟨some (toString context.parent), false, false⟩),
    ("PS1", ⟨some (if viewer.user.number = 0 then "# " else "$ "), false, false⟩), ("PS2", ⟨some "> ", false, false⟩),
    ("PS4", ⟨some "+ ", false, false⟩)]

def initial (context : Context) (name : String) (positional : List String) (environment : Environment)
    (viewer : Viewer) (files : FileSystem) : State :=
  let entered :=
    match environment.get? "PWD" with
    | some path =>
      if Path.isAbsolute path && (files.canonical viewer path).toOption == some viewer.directory then path
      else viewer.directory.path
    | none => viewer.directory.path
  let state : State := {
    name, positional, viewer, directory := entered, bindings := standardVariables context viewer }
  let named := environment.bindings.filter fun (name, _) => isName name
  let state := named.foldl (fun state (name, value) => state.put name ⟨some value, true, false⟩) state
  let state := (state.put "IFS" ⟨some defaultSeparators, false, false⟩).put "OPTIND" ⟨some "1", false, false⟩
  let state := state.put "PPID" ⟨some (toString context.parent), false, false⟩
  state.put "PWD" ⟨some entered, true, false⟩

def group (name : String) : Nat :=
  match (rawBytes name).head? with
  | none => 0
  | some first => (first.toNat * 16 + (rawBytes name).foldl (· + ·.toNat) 0) % 39

def environment (state : State) : Environment :=
  let visible := state.bindings.filterMap fun (name, held) =>
    if held.exported then held.value.map (name, ·) else none
  ⟨visible.mergeSort fun a b => group a.1 ≤ group b.1⟩

def shownOptions (state : State) : String :=
  String.ofList (['p', 'u', 'b', 'a', 'C', 'E', 'V', 'v', 'x', 's', 'n', 'm', 'i', 'I', 'f', 'e'].filter state.has)

def separators (state : State) : Bytes := rawBytes ((state.lookup? "IFS").getD defaultSeparators)

def joint (state : State) : Bytes := state.separators.take 1

def parameter? (context : Context) (state : State) (name : String) : Option String :=
  match name with
  | "#" => some (toString state.positional.length)
  | "?" => some (toString state.status)
  | "$" => some (toString context.pid)
  | "!" => state.lastSent.map toString
  | "-" => some state.shownOptions
  | _ =>
    match name.toNat? with
    | some 0 => some state.name
    | some (index + 1) => state.positional[index]?
    | none => state.lookup? name

def say (state : State) (text : String) (next : Next) : Program := Program.complain text fun _ => next state

def complain (state : State) (text : String) (next : Next) : Program :=
  state.say (state.name ++ ": " ++ toString state.line ++ ": " ++
    (state.command.elim "" (· ++ ": ")) ++ text ++ "\n") next

def isCopy (context : Context) : Bool := context.own != context.pid

/-- Goes on without control of jobs, for which there is no terminal; copies of the process
do not try. -/
def withoutTerminal (context : Context) (state : State) (next : Next) : Program :=
  if state.has 'm' && !isCopy context then
    State.complain { state with options := state.options.filter (· != 'm') } "can't access tty; job control turned off" next
  else next state

def withStatus (state : State) (status : Nat) : State := { state with status }

def hasActions (state : State) : Bool := state.traps.any fun (_, action) => !action.isEmpty

/-- The state of a copy of the script's process, in which the signals that are
not ignored do what they usually do, which has sent off nothing, and which knows of no
text but the script itself. -/
def copied (state : State) : State :=
  { state with
    jobs := []
    traps := state.traps.filter fun (_, action) => action.isEmpty
    pending := []
    readLine := state.inputLine }

def actedOn (state : State) : List Nat :=
  (state.traps.filter fun (number, action) => number != 0 && !action.isEmpty).map (·.1)

def withEnded (pid : Nat) (status : ExitStatus) (state : State) : State :=
  { state with jobs := state.jobs.map (Job.withEnded pid status) }

/-- The job that a word names, or why there is none: by its number, as the current one or the
one before it, or as the only one. Without a word, it is the current one. -/
def findJob (state : State) (name : Option String) : Except String Job :=
  let missing (name : String) : String := "No such job: " ++ name
  let current : Except String Job := (state.jobs.head?.map .ok).getD (.error "No current job")
  match name, (name.getD "").toList with
  | none, _ | _, ['%'] | _, ['%', '%'] | _, ['%', '+'] => current
  | _, ['%', '-'] => (state.jobs[1]?.map .ok).getD (.error "No previous job")
  | some name, ['%', '?'] =>
    match state.jobs with
    | [job] => .ok job
    | [] => .error (missing name)
    | _ => .error (name ++ ": ambiguous")
  | some name, '%' :: digits =>
    let found :=
      if digits.all Char.isDigit then state.jobs.find? fun job => some job.number == (String.ofList digits).toNat?
      else none
    (found.map .ok).getD (.error (missing name))
  | some name, _ => .error (missing name)

/-- The state in which there is room for one more job, and its number: the least
that is free, or that of a job which has ended and was waited for. -/
def claim (state : State) : State × Nat :=
  let taken (number : Nat) : Bool := state.jobs.any fun job => job.number = number && !job.isForgettable
  let number := ((List.range (state.jobs.length + 1)).map (· + 1)).find? fun number => !taken number
  let number := number.getD 1
  ({ state with jobs := state.jobs.filter (·.number != number) }, number)

def send (pids : List Nat) (state : State) : State :=
  let (state, number) := state.claim
  { state with
    jobs := { number, processes := pids.map fun pid => (pid, none) } :: state.jobs
    lastSent := pids.getLast?.or state.lastSent }

end State

/-- A text in quotes from which a script would read the text again: single quotes
stand between double ones, and everything else between single ones. -/
def shellQuoted (text : String) : String :=
  let isQuote (c : Char) : Bool := c = '\''
  let runs := text.toList.splitBy fun a b => isQuote a == isQuote b
  let dress (run : List Char) : List Char :=
    if (run.head?.map isQuote).getD false then '"' :: run ++ ['"'] else '\'' :: run ++ ['\'']
  String.ofList ((if (text.toList.head?.map isQuote).getD true then ['\'', '\''] else []) ++ runs.flatMap dress)

end PipeShell.Script
