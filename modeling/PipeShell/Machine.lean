import PipeShell.Host
import PipeShell.Pipeline.Run
import PipeShell.Shell

/-! # A machine

Everything a session finds around it: files, an input to read lines from, and
two streams that keep what is written to them. The log is a file that is added
to; when it cannot be opened, the log goes where the complaints go, and then
only what is important. -/

set_option autoImplicit false

namespace PipeShell

open PipeShell.System

inductive LogTarget where
  | file (file : OpenFile)
  /-- The stream of complaints, which may take control sequences. -/
  | complaints (full : Bool)
  deriving DecidableEq, Repr

/-- The state of a machine on which a session takes place. -/
structure Machine where
  files : FileSystem
  /-- The process of the shell itself. -/
  viewer : Viewer
  environment : Environment
  /-- The home directory of the account that the shell runs for, if it has one. -/
  account : Option String
  reader : LineReader
  /-- What was printed. -/
  output : Buffer := .empty
  /-- What was complained about. -/
  complaints : Buffer := .empty
  log : LogTarget := .complaints false
  threshold : Threshold
  stamp : LogStamp
  historyFile : String
  /-- What earlier lines left behind. -/
  lines : Pipeline.State

namespace Machine

def print (text : String) (machine : Machine) : Machine :=
  { machine with output := machine.output.push (bytesOf text) }

def complain (text : String) (machine : Machine) : Machine :=
  { machine with complaints := machine.complaints.push (bytesOf text) }

/-- Writes a record to the log. A log that cannot be written loses it. -/
def writeRecord (record : LogRecord) (machine : Machine) : Machine :=
  match machine.log with
  | .complaints full => machine.complain (if full then record.fullLine machine.stamp else record.line machine.stamp)
  | .file file =>
    match machine.files.write file (bytesOf (record.line machine.stamp)) with
    | .ok (files, file) => { machine with files, log := .file file }
    | .error _ => machine

/-- Writes a record to the log if it is important enough. -/
def note (record : LogRecord) (machine : Machine) : Machine :=
  if machine.threshold.keeps record.severity then machine.writeRecord record else machine

/-- Whether prompts are printed: only for terminals that are known to lack
everything but plain text. -/
def prompts (machine : Machine) : Bool :=
  match machine.environment.get? "TERM" with
  | some terminal => ["dumb", "cons25", "emacs"].any (Text.equalsIgnoringCase · terminal)
  | none => false

def read (prompt : String) (machine : Machine) : ReadOutcome × Machine :=
  let machine := if machine.prompts then machine.print prompt else machine
  let (outcome, reader) := machine.reader.next machine.files Program.lifetime
  (outcome, { machine with reader })

/-- The home directory, as it is looked up for `~`. -/
def home (machine : Machine) : Option String := machine.environment.home machine.account

/-- What a line finds around it when it is carried out in a directory. -/
def host (machine : Machine) (directory : String) : Pipeline.Host where
  launcher := .native
  directory := directory
  capacity := Host.pipeCapacity
  pid := machine.stamp.pid
  firstPid := machine.stamp.pid + 1
  wholeLines := true
  patience := 0
  start := Host.start machine.viewer.user machine.stamp.pid machine.viewer.directory machine.environment

/-- Carries out a line. Its stages read where the shell reads its lines, behind
everything the shell has already taken. There is nothing to say about a line that the
shell did not live to carry out. -/
def execute (machine : Machine) (directory : String) (line : Line) :
    Except ExecError Pipeline.Outcome × Machine :=
  let before := { machine.lines with files := machine.files }.setOpened 0 machine.reader.file
  let execution := Pipeline.execute (machine.host directory) before machine.viewer machine.home line
  let state := execution.state
  let after := { machine with
    files := state.files
    lines := state
    reader := { machine.reader with file := state.opened.headD machine.reader.file }
    output := machine.output.push state.captured.toList
    complaints := machine.complaints.push state.complaints.toList }
  (execution.result.getD (.ok (.foreground [])), state.log.reverse.foldl (fun machine record => machine.note record) after)

def killed (machine : Machine) : Option Nat := machine.lines.killed

def save (history : History) (machine : Machine) : Except Failure Unit × Machine :=
  match history.save machine.files machine.viewer machine.historyFile with
  | .ok files => (.ok (), { machine with files })
  | .error failure => (.error failure, machine)

def world : World Machine where
  read := read
  resolve := fun machine directory target =>
    (resolveDirectory machine.files machine.viewer machine.home directory target, machine)
  execute := execute
  print := print
  complain := complain
  log := note
  killedBy := killed
  remember := History.add
  save := save

def logPath (config : Config) (stamp : LogStamp) : String :=
  Path.join config.logDirectory (config.name ++ "_" ++ stamp.date ++ ".log")

def insistsOnColours (environment : Environment) : Bool :=
  match environment.get? "CLICOLOR_FORCE" with
  | some wish => wish != "0"
  | none => false

def refusesColours (environment : Environment) : Bool :=
  match environment.get? "NO_COLOR" with
  | some wish => !wish.isEmpty
  | none => false

def openLog (config : Config) (machine : Machine) : Machine :=
  let path := logPath config machine.stamp
  match machine.files.openWrite machine.viewer .append path with
  | .ok (files, file) => { machine with files, log := .file file }
  | .error failure =>
    { machine.complain (config.name ++ ": cannot open " ++ path ++ ": " ++ failure.message ++ "\n") with
      threshold := machine.threshold.strictest (.upTo .warn)
      log := .complaints (insistsOnColours machine.environment && !refusesColours machine.environment) }

/-- Reads the history, with records about lines that look wrong and about the
outcome. -/
def loadHistory (machine : Machine) : History × Machine :=
  let loaded := History.load machine.files machine.viewer machine.historyFile
  let machine := loaded.odd.foldl
    (fun machine line => machine.writeRecord ⟨.warn, "bad escaped line: " ++ line⟩) machine
  let text :=
    match loaded.failure with
    | none => "history loaded: " ++ toString loaded.history.entries.length ++ " entries"
    | some failure => "no history loaded from " ++ machine.historyFile ++ ": " ++ failure.message
  (loaded.history, machine.note ⟨.debug, text⟩)

def start (files : FileSystem) (viewer : Viewer) (environment : Environment) (account : Option String)
    (input : OpenFile) (stamp : LogStamp) : Config × Machine :=
  let startup := Config.load files viewer environment
  let config := startup.config
  let machine : Machine := {
    files := startup.files
    viewer
    environment := startup.environment
    account
    reader := { file := input }
    threshold := .named config.logLevel
    stamp
    historyFile := config.historyFile
    lines := .idle startup.files input }
  let machine := startup.complaints.foldl (fun machine text => machine.complain (text ++ "\n")) machine
  let machine := machine.openLog config
  let machine := machine.note ⟨.debug, "log level set to " ++ machine.threshold.name⟩
  (config, machine.note ⟨.debug, "config loaded from " ++ config.configDirectory⟩)

/-- How the session looks. Colours are only used if the environment insists. -/
def look (config : Config) (environment : Environment) : Look where
  theme := .named config.theme
  colour := insistsOnColours environment

/-- A failure as it is shown when it ends the shell. -/
def showFailure (failure : Failure) : String :=
  let kind := failure.kindOf.name
  match failure.errno? with
  | some errno =>
    showParts "Os" [("code", toString errno.code), ("kind", kind), ("message", Text.quoted errno.text)]
  | none => showParts "Error" [("kind", kind), ("message", Text.quoted failure.message)]

/-- The status of a shell whose session ended so. A session that failed is
complained about. -/
def leave (ending : Ending) (machine : Machine) : ExitStatus × Machine :=
  match ending with
  | .failed failure => (.code 1, machine.complain ("Error: Io(" ++ showFailure failure ++ ")\n"))
  | .killed signal => (.signal signal, machine)
  | _ => (.success, machine)

/-- A whole session, from reading the configuration to the exit status. -/
def session (files : FileSystem) (viewer : Viewer) (environment : Environment) (account : Option String)
    (input : OpenFile) (stamp : LogStamp) : ExitStatus × Machine :=
  let (config, machine) := start files viewer environment account input stamp
  let directory := viewer.directory.path
  let machine := machine.note ⟨.debug, "starting minish in " ++ directory⟩
  let machine := machine.note ⟨.debug, "SIGINT handler installed"⟩
  let (history, machine) := machine.loadHistory
  let shell : Shell Machine := { world := machine, session := ⟨directory⟩, history }
  let (ending, shell) := shell.run world (look config machine.environment) config.historyFile Program.lifetime
  leave ending shell.world

end Machine

end PipeShell
