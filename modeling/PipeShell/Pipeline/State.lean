import PipeShell.Drain
import PipeShell.Launcher
import PipeShell.Log
import PipeShell.Process.Program
import PipeShell.Redirects
import PipeShell.System.Buffer

/-! # Running pipelines

The state of a line that is being carried out: the shell's own thread with what
it still has to do, the processes that were started, the pipes between them, and
the drains that copy captured streams to the shell's sinks. Who holds the ends
of a pipe is read off the processes, the drains and the shell's thread; nothing
else can read or write it. Lines that were sent to the background before may
still be going on beside it. -/

set_option autoImplicit false

namespace PipeShell.Pipeline

open PipeShell.System

inductive Parent where
  /-- The shell. -/
  | shell
  /-- Another process, by its index. -/
  | process (index : Nat)
  /-- A process that has ended. -/
  | nobody
  deriving DecidableEq, Repr

structure Process where
  /-- What the process still does. -/
  program : Program
  holdings : Holdings
  parent : Parent := .shell
  /-- The signals that were noted and not yet looked at. -/
  noted : List Nat := []
  /-- The moment at which the process wakes up, if it sleeps. -/
  wake : Option Nat := none
  /-- Whether a signal has stopped the process. -/
  stopped : Bool := false
  /-- How the process ended, if it did. Its descriptors are closed then. -/
  status : Option ExitStatus := none
  /-- How many times whoever started it waited for it successfully. -/
  waits : Nat := 0

namespace Process

/-- A process runs until it has a status. -/
def isRunning (process : Process) : Bool := process.status.isNone

def reads (process : Process) (pipe : Nat) : Bool := process.isRunning && process.holdings.reads pipe

def writes (process : Process) (pipe : Nat) : Bool := process.isRunning && process.holdings.writes pipe

/-- Whether the process holds an entry of the table of open files. -/
def opens (process : Process) (slot : Nat) : Bool :=
  process.isRunning && process.holdings.ports.any (·.2 == .file slot)

/-- Whether the process has left the system: it has ended, and nobody will still
ask how. -/
def isGone (process : Process) : Bool :=
  !process.isRunning && (process.waits != 0 || process.parent == .nobody)

end Process

/-- Where the shell collects what its stages write. -/
inductive Sink where
  | output
  | error
  deriving DecidableEq, Repr

/-- A thread that copies a pipe to a sink. -/
structure Copier where
  /-- The pipe it reads. -/
  pipe : Nat
  /-- The sink it writes to; nothing if nobody looks at it any more. -/
  sink : Option Sink
  /-- The writes it still has to make before it reads again. -/
  pending : List Bytes := []
  /-- The state between reads; nothing once the stream has ended. -/
  drain : Option Drain := some {}
  deriving DecidableEq, Repr

/-- A copier is done when its stream has ended and everything was written. -/
def Copier.isDone (copier : Copier) : Bool := copier.drain.isNone && copier.pending.isEmpty

/-- A process that the shell started for a stage. -/
structure Child where
  /-- The name the stage gives its program. -/
  program : String
  /-- The index of the process among all processes. -/
  process : Nat
  deriving DecidableEq, Repr

structure StageStatus where
  program : String
  status : ExitStatus
  deriving DecidableEq, Repr

/-- The signals that do nothing to the shell: it handles interrupts, and it does
without the signal of a broken pipe. -/
def shellSignals : List Nat := 2 :: brokenPipeSignal :: harmlessSignals

/-- What carrying out a line comes to. -/
inductive Outcome where
  /-- Every stage ended. -/
  | foreground (statuses : List StageStatus)
  /-- The stages go on by themselves; the number of the last one's process. -/
  | background (pid : Nat)
  deriving DecidableEq, Repr

/-- What the shell's thread does. -/
inductive Action where
  /-- Starts a stage. -/
  | spawn (stage : Stage) (first last : Bool)
  /-- Goes on from starting stages to waiting for them. -/
  | settle
  /-- Kills a child unless it has already ended. -/
  | kill (child : Child)
  /-- Waits for a child and forgets its status. -/
  | reap (child : Child)
  /-- Waits for a child and records its status. The child is the shell's own and nobody else
  waits for it, so this does not fail. -/
  | wait (child : Child)
  /-- Waits for a copier to be done. -/
  | join (copier : Nat)
  /-- Reports that a background line has ended. -/
  | report
  /-- Hands the statuses to whoever asked for the line. -/
  | finish
  /-- Hands a failure to whoever asked for the line. -/
  | fail (error : LaunchError)
  deriving DecidableEq, Repr

/-- A thread of the shell that carries out a line. -/
structure Conductor where
  /-- What is still to be done. -/
  agenda : List Action := []
  /-- The children started so far, in the order of the stages. -/
  children : List Child := []
  /-- The statuses recorded so far. -/
  statuses : List StageStatus := []
  /-- The pipe whose reading end waits for the next stage. -/
  held : Option Nat := none
  /-- How many copiers there were before the line. -/
  firstCopier : Nat := 0
  /-- What was handed back, once the line was carried out. -/
  outcome : Option (Except LaunchError Outcome) := none

/-- What a line finds around it. -/
structure Host where
  launcher : Launcher
  /-- The directory the stages start in. -/
  directory : String
  /-- How many bytes a pipe holds. -/
  capacity : Nat
  /-- The number of the shell's own process. -/
  pid : Nat
  /-- The number of the first process. -/
  firstPid : Nat
  /-- Whether a sink takes a line and its newline in one write. -/
  wholeLines : Bool
  /-- How many nanoseconds are given to a line in the background. -/
  patience : Nat
  /-- The behaviour of a command when a process with some number is started for it,
  or why it cannot be. -/
  start : Nat → FileSystem → Command → Except Failure Program

def Host.deliveries (host : Host) (line : Bytes) : List Bytes :=
  let text := Drain.lineText line
  if host.wholeLines then [text ++ [newline]]
  else if text.isEmpty then [[newline]]
  else [text, [newline]]

/-- Lines that are being carried out. -/
structure State where
  files : FileSystem
  /-- The open files that processes share. -/
  opened : List OpenFile := []
  /-- Where the first stage of the line reads. -/
  input : Port := .null
  /-- Where the last stage writes, unless it is captured. -/
  output : Option Port := none
  /-- Where the last stage writes its errors, unless they are captured. -/
  error : Option Port := none
  background : Bool := false
  conductor : Conductor := {}
  /-- The threads that see to lines sent to the background before. -/
  reapers : List Conductor := []
  processes : List Process := []
  pipes : List Buffer := []
  copiers : List Copier := []
  /-- What was written to the output sink. -/
  captured : Buffer := .empty
  /-- What was written to the error sink. -/
  complaints : Buffer := .empty
  /-- The records of the log, the newest first. -/
  log : List LogRecord := []
  /-- How many nanoseconds have passed. -/
  clock : Nat := 0
  /-- The signal that killed the shell itself, if one did. Nothing moves any more
  then. -/
  killed : Option Nat := none

namespace State

def hasReader (state : State) (pipe : Nat) : Bool :=
  state.conductor.held == some pipe || state.processes.any (·.reads pipe) ||
    state.copiers.any fun copier => copier.pipe == pipe && !copier.isDone

def hasWriter (state : State) (pipe : Nat) : Bool := state.processes.any (·.writes pipe)

/-- Whether an entry of the table of open files is taken: the first one by the
shell's own input, and others by the ends of the line and by processes. -/
def isOpen (state : State) (slot : Nat) : Bool :=
  slot = 0 || state.input == .file slot || state.output == some (.file slot) || state.error == some (.file slot) ||
    state.processes.any (·.opens slot)

def note (state : State) (severity : Severity) (text : String) : State :=
  { state with log := ⟨severity, text⟩ :: state.log }

def setProcess (state : State) (index : Nat) (process : Process) : State :=
  { state with processes := state.processes.set index process }

def setPipe (state : State) (number : Nat) (content : Buffer) : State :=
  { state with pipes := state.pipes.set number content }

def setOpened (state : State) (slot : Nat) (file : OpenFile) : State :=
  { state with opened := state.opened.set slot file }

/-- The state with one more open file, and its entry: the first one that nobody
holds, or else a new one. -/
def addOpened (state : State) (file : OpenFile) : State × Nat :=
  match (List.range state.opened.length).find? fun slot => !state.isOpen slot with
  | some slot => (state.setOpened slot file, slot)
  | none => ({ state with opened := state.opened ++ [file] }, state.opened.length)

def setAgenda (state : State) (agenda : List Action) : State :=
  { state with conductor := { state.conductor with agenda } }

end State

end PipeShell.Pipeline
