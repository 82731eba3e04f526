import PipeShell.Config
import PipeShell.History
import PipeShell.Line.Build
import PipeShell.Line.Builtin
import PipeShell.Line.Printer
import PipeShell.LineReader
import PipeShell.Pipeline.State
import PipeShell.Session
import PipeShell.Theme

/-! # The shell

Lines are read and handled one after the other until one of them asks to leave,
no more lines come, or reading fails. What a line does to files and processes is
left to the world the session takes place in; the shell itself only remembers
its directory and its history. No failure of a line ends the session. -/

set_option autoImplicit false

namespace PipeShell

open PipeShell.System

/-- A world in which sessions can take place. Everything the shell asks of it may
change it. -/
structure World (σ : Type) where
  /-- Waits for a line behind a prompt. -/
  read : String → σ → ReadOutcome × σ
  /-- The directory that a target leads to from a directory; the home directory
  without a target. -/
  resolve : σ → String → Option String → Except Failure String × σ
  /-- Carries out a line in a directory. -/
  execute : σ → String → Line → Except ExecError Pipeline.Outcome × σ
  /-- Tells the user something. -/
  print : String → σ → σ
  /-- Tells the user about something that went wrong. -/
  complain : String → σ → σ
  /-- Keeps a record in the log. -/
  log : LogRecord → σ → σ
  /-- The signal that has killed the shell, if one has. -/
  killedBy : σ → Option Nat
  /-- The history with one more entry, unless the line editor refuses it. -/
  remember : History → String → History
  /-- Stores the history. -/
  save : History → σ → Except Failure Unit × σ

/-- How a session looks to its user. -/
structure Look where
  theme : Theme
  colour : Bool
  deriving DecidableEq, Repr

/-- What goes on in a session. -/
structure Shell (σ : Type) where
  world : σ
  session : Session
  history : History := {}

inductive Flow where
  | stay
  | leave
  deriving DecidableEq, Repr

/-- Why a session is over. -/
inductive Ending where
  /-- A line asked for it. -/
  | left
  /-- There were no more lines. -/
  | ended
  /-- Waiting for a line failed. -/
  | failed (failure : Failure)
  /-- A signal killed the shell. -/
  | killed (signal : Nat)
  /-- As many lines were handled as the session was allowed. -/
  | exhausted
  deriving DecidableEq, Repr

namespace Shell

variable {σ : Type} (world : World σ) (look : Look)

def print (text : String) (shell : Shell σ) : Shell σ :=
  { shell with world := world.print (text ++ "\n") shell.world }

def complain (text : String) (shell : Shell σ) : Shell σ :=
  { shell with world := world.complain (text ++ "\n") shell.world }

def note (severity : Severity) (text : String) (shell : Shell σ) : Shell σ :=
  { shell with world := world.log ⟨severity, text⟩ shell.world }

def report (label text : String) (shell : Shell σ) : Shell σ :=
  shell.complain world (look.theme.error.paint look.colour (label ++ ": " ++ text))

/-- Changes the directory. The directory is printed afterwards, whether or not it
changed. -/
def changeDirectory (target : Option String) (shell : Shell σ) : Shell σ :=
  let (answer, after) := world.resolve shell.world shell.session.directory target
  let shell := { shell with world := after }
  let shell :=
    match answer with
    | .ok directory =>
      let record := Session.moveRecord shell.session ⟨directory⟩
      { shell with session := ⟨directory⟩, world := world.log record shell.world }
    | .error failure => shell.report world look "cd" (target.getD "~" ++ ": " ++ failure.message)
  shell.print world (Theme.message "current_dir" ++ ": " ++ shell.session.directory)

/-- The code of a status, or its text if a signal ended the process. -/
def statusText : ExitStatus → String
  | .code code => toString code.toNat
  | .signal number => ExitStatus.text (.signal number)

/-- The warning about a stage that did not succeed. -/
def statusWarning (stage : Pipeline.StageStatus) : String :=
  stage.program ++ ": " ++ Theme.message "exit_status" ++ " " ++ statusText stage.status

/-- Warns about every stage that did not succeed. -/
def reportStatuses (statuses : List Pipeline.StageStatus) (shell : Shell σ) : Shell σ :=
  (statuses.filter fun stage => !stage.status.isSuccess).foldl
    (fun shell stage => shell.complain world (look.theme.warning.paint look.colour (statusWarning stage))) shell

def runLine (line : Line) (shell : Shell σ) : Shell σ :=
  let (result, after) := world.execute shell.world shell.session.directory line
  let shell := { shell with world := after }
  match result with
  | .ok (.background pid) =>
    let label := "[" ++ toString pid ++ "] "
    (shell.note world .info (label ++ line.text)).print world (label ++ Theme.message "background")
  | .ok (.foreground statuses) => shell.reportStatuses world look statuses
  | .error error => shell.report world look (Theme.message "error") error.message

/-- Handles a parsed line: the commands of the shell itself, or everything
else. -/
def perform (line : Line) (shell : Shell σ) : Flow × Shell σ :=
  match line.builtin? with
  | some .exit => (.leave, shell)
  | some .cd => (.stay, shell.changeDirectory world look (line.stages.head?.bind (·.argv[1]?)))
  | none => (.stay, shell.runLine world look line)

/-- Handles a line of input. Blanks around it do not count, and a line of nothing
but blanks leaves no trace. Every other line goes into the history, even if it
cannot be parsed. -/
def handle (input : String) (shell : Shell σ) : Flow × Shell σ :=
  let text := String.ofList (Text.trim input.toList)
  if text.isEmpty then (.stay, shell)
  else
    let shell := { shell with history := world.remember shell.history text }
    match Line.ofInput text with
    | .error error =>
      let shell := shell.note world .warn ("parse error in " ++ Text.quoted text ++ ": " ++ error.message)
      (.stay, shell.report world look (Theme.message "parse_error") error.message)
    | .ok line =>
      let shell := shell.note world .debug ("parsed line: " ++ line.shown)
      if line.isEmpty then (.stay, shell) else shell.perform world look line

def prompt (shell : Shell σ) : String :=
  look.theme.renderPrompt look.colour (Path.basename shell.session.directory)

/-- Handles at most so many lines, until the session is over. -/
def loop : Nat → Shell σ → Ending × Shell σ
  | 0, shell => (.exhausted, shell)
  | bound + 1, shell =>
    let (outcome, after) := world.read (shell.prompt look) shell.world
    let shell := { shell with world := after }
    match outcome with
    | .line text =>
      match shell.handle world look text with
      | (.leave, shell) => (.left, shell.print world (look.theme.success.paint look.colour (Theme.message "exit")))
      | (.stay, shell) =>
        match world.killedBy shell.world with
        | some signal => (.killed signal, shell)
        | none => loop bound shell
    | .interrupted =>
      loop bound (shell.print world (look.theme.warning.paint look.colour (Theme.message "interrupt_signal")))
    | .ended =>
      let shell := shell.note world .warn "EOF on input, leaving"
      (.ended, shell.print world ("\n" ++ look.theme.warning.paint look.colour (Theme.message "eof_signal")))
    | .failed failure => (.failed failure, shell.note world .error ("readline failed: " ++ failure.message))

def greet (shell : Shell σ) : Shell σ :=
  (shell.print world (look.theme.success.paint look.colour (Theme.message "welcome"))).print world
    (look.theme.warning.paint look.colour (Theme.message "help"))

/-- Stores the history at a path, which the world knows too. -/
def saveHistory (path : String) (shell : Shell σ) : Shell σ :=
  let (result, after) := world.save shell.history shell.world
  let shell := { shell with world := after }
  match result with
  | .ok () => shell.note world .debug "history saved"
  | .error failure => shell.note world .warn ("cannot save history to " ++ path ++ ": " ++ failure.message)

/-- A session from its greeting to its end. The history is stored however it
ends, unless a signal killed the shell. -/
def run (historyFile : String) (bound : Nat) (shell : Shell σ) : Ending × Shell σ :=
  match (shell.greet world look).loop world look bound with
  | (.killed signal, shell) => (.killed signal, shell)
  | (ending, shell) => (ending, (shell.saveHistory world historyFile).note world .debug "minish exiting")

end Shell

end PipeShell
