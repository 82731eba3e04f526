import PipeShell.Pipeline.State
import PipeShell.Text.Quoted

/-! # Steps of a pipeline

What each of the actors (the shell's threads, the processes and the copiers) can
do next. An actor that cannot move is blocked: a reader on an empty pipe that
somebody may still write, a writer on a full pipe that somebody may still read,
the shell's thread on a child that runs or a copier that is not done, a process on
a child that runs or on the time. Any actor that can move may be the next to do
so, and time may pass whenever somebody waits for it. -/

set_option autoImplicit false

namespace PipeShell.Pipeline

open PipeShell.System

inductive Actor where
  | conductor
  /-- The thread that sees to a line sent to the background before. -/
  | reaper (number : Nat)
  | process (index : Nat)
  | copier (number : Nat)
  /-- The clock, which moves on to the moment when somebody wakes up. -/
  | clock
  deriving DecidableEq, Repr

namespace State

/-! ## Reading and writing -/

/-- The bytes that can be read at a port, with the state afterwards; nothing
while the reader has to wait. -/
def pull (state : State) (port : Option Port) (limit : Nat) : Option (State × Except Errno Bytes) :=
  match port with
  | none => some (state, .error .badDescriptor)
  | some .null => some (state, .ok [])
  | some (.writer _) => some (state, .error .badDescriptor)
  | some (.file slot) =>
    match state.opened[slot]? with
    | none => some (state, .error .badDescriptor)
    | some file =>
      match state.files.read file limit with
      | .error e => some (state, .error e)
      | .ok (data, file) => some (state.setOpened slot file, .ok data)
  | some (.reader number) =>
    match state.pipes[number]? with
    | none => some (state, .error .badDescriptor)
    | some content =>
      if content.size = 0 then
        if state.hasWriter number then none else some (state, .ok [])
      else
        let (data, rest) := content.pull limit
        some (state.setPipe number rest, .ok data)

/-- What came of an attempt to write. -/
inductive Written where
  /-- Everything was written. -/
  | all
  /-- Some bytes are left to write. -/
  | part (rest : Bytes)
  | failed (errno : Errno)

/-- Writes bytes to a port, with the state afterwards; nothing while the writer
has to wait. -/
def push (host : Host) (state : State) (port : Option Port) (data : Bytes) : Option (State × Written) :=
  match port with
  | none => some (state, .failed .badDescriptor)
  | some .null => some (state, .all)
  | some (.reader _) => some (state, .failed .badDescriptor)
  | some (.file slot) =>
    match state.opened[slot]? with
    | none => some (state, .failed .badDescriptor)
    | some file =>
      match state.files.write file data with
      | .error e => some (state, .failed e)
      | .ok (files, file) => some ({ state with files }.setOpened slot file, .all)
  | some (.writer number) =>
    match state.pipes[number]? with
    | none => some (state, .failed .badDescriptor)
    | some content =>
      if data.isEmpty then some (state, .all)
      else if !state.hasReader number then some (state, .failed .brokenPipe)
      else
        let room := host.capacity - content.size
        if room = 0 then none
        else if data.length ≤ room then some (state.setPipe number (content.push data), .all)
        else some (state.setPipe number (content.push (data.take room)), .part (data.drop room))

/-! ## Processes and signals -/

/-- A signal among those that were noted before, once and in order. -/
def noteSignal (signal : Nat) : List Nat → List Nat
  | [] => [signal]
  | other :: rest =>
    if signal < other then signal :: other :: rest
    else if signal = other then other :: rest
    else other :: noteSignal signal rest

/-- The state after a process has ended. Its children belong to nobody then, and
whoever started it may note that one of its children has ended. -/
def finish (state : State) (index : Nat) (status : ExitStatus) : State :=
  let parent := (state.processes[index]?.map (·.parent)).getD .nobody
  { state with
    processes := state.processes.mapIdx fun number process =>
      if number = index then { process with status := some status }
      else if process.parent = .process index then { process with parent := .nobody }
      else if parent = .process number && process.holdings.plan childSignal = .noted &&
          !process.holdings.blocked.contains childSignal then
        { process with noted := noteSignal childSignal process.noted }
      else process }

def pidOf (host : Host) (index : Nat) : Nat := host.firstPid + index

/-- The process with a number, with its index, unless it has left the system. -/
def process? (host : Host) (state : State) (pid : Nat) : Option (Nat × Process) :=
  if pid < host.firstPid then none
  else
    match state.processes[pid - host.firstPid]? with
    | some process => if process.isGone then none else some (pid - host.firstPid, process)
    | none => none

def strike (state : State) (index : Nat) (process : Process) (signal : Nat) : State :=
  let process := if signal = continueSignal then { process with stopped := false } else process
  let plan :=
    if finalSignals.contains signal then .usual
    else if process.holdings.blocked.contains signal then .ignored
    else process.holdings.plan signal
  match plan with
  | .ignored => state.setProcess index process
  | .noted => state.setProcess index { process with noted := noteSignal signal process.noted }
  | .usual =>
    if stopSignals.contains signal then state.setProcess index { process with stopped := true }
    else if harmlessSignals.contains signal then state.setProcess index process
    else state.finish index (.signal signal)

/-- The number of the first process of the system, which no signal can touch. -/
def initPid : Nat := 1

/-- The state after a signal was sent to a process, and whether there is one with
that number. A process that is still there but has ended takes no notice. -/
def deliver (host : Host) (state : State) (target signal : Nat) : State × Bool :=
  if target = initPid then (state, true)
  else if target = host.pid then
    (if shellSignals.contains signal then state else { state with killed := some signal }, true)
  else
    match state.process? host target with
    | none => (state, false)
    | some (index, process) =>
      (if process.isRunning && signal != 0 then state.strike index process signal else state, true)

/-- The children of a process that it has not waited for, with their indices. -/
def childrenOf (state : State) (index : Nat) : List (Nat × Process) :=
  (state.processes.zipIdx.map fun (process, number) => (number, process)).filter fun (_, process) =>
    process.parent = .process index && process.waits = 0

/-- What a process that waits gets to know, with the state afterwards; nothing
while it has to wait. -/
def await (host : Host) (state : State) (index : Nat) (process : Process) (mode : WaitMode) :
    Option (State × WaitAnswer) :=
  let children := state.childrenOf index
  match children.find? fun (_, child) => !child.isRunning with
  | some (number, child) =>
    some (state.setProcess number { child with waits := child.waits + 1 },
      .ended (pidOf host number) (child.status.getD .success))
  | none =>
    if mode = .alert && !process.noted.isEmpty then some (state, .interrupted)
    else if children.isEmpty || mode = .passing then some (state, .nobody)
    else none

def descriptorsOf (state : State) (process : Process) : List (Nat × Node) :=
  process.holdings.ports.filterMap fun (descriptor, port) =>
    match port with
    | .null => some (descriptor, .device .null)
    | .file slot => state.opened[slot]?.map fun file => (descriptor, file.node)
    | .reader _ | .writer _ => some (descriptor, .pipe descriptor)

def moveProcess (host : Host) (state : State) (index : Nat) (process : Process) : Option State :=
  let goOn (state : State) (program : Program) : Option State :=
    some { state with processes := state.processes.modify index fun process => { process with program } }
  match process.program with
  | .exit status => some (state.finish index status)
  | .read descriptor limit next =>
    match state.pull (process.holdings.port? descriptor) limit with
    | none => none
    | some (state, answer) => goOn state (next answer)
  | .write descriptor data next =>
    match state.push host (process.holdings.port? descriptor) data with
    | none => none
    | some (state, .all) => goOn state (next none)
    | some (state, .part rest) => goOn state (.write descriptor rest next)
    | some (state, .failed e) =>
      let struck := if e = .brokenPipe then state.strike index process brokenPipeSignal else state
      some { struck with processes := struck.processes.modify index fun process =>
        if process.isRunning then { process with program := next (some e) } else process }
  | .files change next =>
    let seen := { state.files with descriptors := state.descriptorsOf process }
    goOn { state with files := { change seen with descriptors := state.files.descriptors } } (next seen)
  | .adjust change next =>
    some (state.setProcess index
      { process with holdings := change process.holdings, program := next process.holdings })
  | .attach descriptor file next =>
    let (state, slot) := state.addOpened file
    some (state.setProcess index
      { process with holdings := process.holdings.connect descriptor (some (.file slot)), program := next () })
  | .pipe reader writer next =>
    let number := state.pipes.length
    let holdings := (process.holdings.connect reader (some (.reader number))).connect writer (some (.writer number))
    let state := { state with pipes := state.pipes ++ [Buffer.empty] }
    some (state.setProcess index { process with holdings, program := next () })
  | .inspect descriptor next =>
    goOn state (next ((process.holdings.port? descriptor).map fun port =>
      match port with
      | .file slot => (port, state.opened[slot]?)
      | port => (port, none)))
  | .seek descriptor position next =>
    match process.holdings.port? descriptor with
    | some (.file slot) =>
      match state.opened[slot]? with
      | some file => goOn (state.setOpened slot { file with offset := position }) (next true)
      | none => goOn state (next false)
    | _ => goOn state (next false)
  | .fork change child next =>
    let number := state.processes.length
    let copy : Process := {
      program := child (pidOf host number), holdings := change process.holdings, parent := .process index }
    let state := state.setProcess index { process with program := next (pidOf host number) }
    some { state with processes := state.processes ++ [copy] }
  | .wait mode next =>
    match state.await host index process mode with
    | none => none
    | some (state, answer) => goOn state (next answer)
  | .signal target signal next =>
    let (after, known) := state.deliver host target signal
    some { after with processes := after.processes.modify index fun process =>
      if process.isRunning then { process with program := next known } else process }
  | .noted next => some (state.setProcess index { process with noted := [], program := next process.noted })
  | .sleep duration next =>
    match process.wake with
    | none => some (state.setProcess index { process with wake := some (state.clock + duration) })
    | some moment =>
      if state.clock < moment then none
      else some (state.setProcess index { process with wake := none, program := next () })

/-! ## Copiers and the clock -/

/-- The next thing that a copier does: a write that is due, or else a read. -/
def moveCopier (host : Host) (state : State) (number : Nat) (copier : Copier) : Option State :=
  match copier.pending with
  | piece :: pending =>
    let copiers := state.copiers.set number { copier with pending }
    match copier.sink with
    | some .output => some { state with copiers, captured := state.captured.push piece }
    | some .error => some { state with copiers, complaints := state.complaints.push piece }
    | none => some { state with copiers }
  | [] =>
    match copier.drain with
    | none => none
    | some drain =>
      match state.pull (some (.reader copier.pipe)) readLimit with
      | none => none
      | some (state, answer) =>
        let (lines, drain) := drain.receive (answer.toOption.getD [])
        let pending := lines.flatMap host.deliveries
        some { state with copiers := state.copiers.set number { copier with pending, drain } }

def wakes (state : State) : List Nat :=
  state.processes.filterMap fun process => if process.isRunning then process.wake.filter (state.clock < ·) else none

/-- The state at the moment when the first sleeper wakes up. -/
def passTime (state : State) : Option State :=
  state.wakes.min?.map fun moment => { state with clock := moment }

/-! ## The shell's threads -/

/-- The numbers of the copiers of the line, as joined in order. -/
def joins (state : State) : List Action :=
  ((List.range state.copiers.length).drop state.conductor.firstCopier).map .join

/-- What follows a failed start: every child is killed and waited for, and every
copier joined, before the failure is handed back. -/
def abort (state : State) (error : LaunchError) : List Action :=
  state.conductor.children.flatMap (fun child => [.kill child, .reap child]) ++ state.joins ++ [.fail error]

/-- Where a stage reads: the first one the input of the line, every other one
the stage before it. -/
def stageInput (state : State) (first : Bool) : Port :=
  if first then state.input
  else
    match state.conductor.held with
    | some pipe => .reader pipe
    | none => .null

/-- Where a stream of a stage leads, and the pipes with the one that captures it.
The streams of the last stage go where the line sends them. -/
def stageOutlet (pipes : List Buffer) (last : Bool) (target : Option Port) : Port × List Buffer :=
  match last, target with
  | true, some port => (port, pipes)
  | _, _ => (.writer pipes.length, pipes ++ [.empty])

/-- The copier of an outlet, if the outlet is a pipe. -/
def copierOf (outlet : Port) (sink : Sink) : List Copier :=
  match outlet with
  | .writer pipe => [{ pipe, sink := some sink }]
  | _ => []

def launch (state : State) (stage : Stage) (program : Program) (first last : Bool) : State :=
  let (output, pipes) := stageOutlet state.pipes last state.output
  let (error, pipes) := stageOutlet pipes last state.error
  let holdings : Holdings := { ports := [(0, state.stageInput first), (1, output), (2, error)] }
  let child : Child := ⟨stage.program, state.processes.length⟩
  { state with
    pipes
    processes := state.processes ++ [{ program, holdings }]
    copiers := state.copiers ++ copierOf error .error ++ (if last then copierOf output .output else [])
    conductor := { state.conductor with
      children := state.conductor.children ++ [child]
      held := match last, output with
        | false, .writer pipe => some pipe
        | _, _ => none } }

def spawn (host : Host) (state : State) (stage : Stage) (first last : Bool) : State :=
  let state := state.note .debug ("spawning " ++ Text.quotedList stage.argv ++ " in " ++ host.directory)
  let command := host.launcher.command stage.argv host.directory
  match host.start (pidOf host state.processes.length) state.files command with
  | .ok program => state.launch stage program first last
  | .error failure =>
    let state := state.note .warn
      ("failed to launch " ++ Text.quotedList stage.argv ++ ": " ++ failure.message)
    state.setAgenda (state.abort (LaunchError.ofFailure stage.program failure))

/-- What follows the last start. A background line is handed back before its
children are waited for. -/
def settle (host : Host) (state : State) : State :=
  let waits := state.conductor.children.map Action.wait
  if state.background then
    let pid :=
      match state.conductor.children.getLast? with
      | some child => pidOf host child.process
      | none => 0
    let state := state.note .info ("background pipeline started, last pid " ++ toString pid)
    { state with conductor := { state.conductor with
        agenda := waits ++ .report :: state.joins
        outcome := some (.ok (.background pid)) } }
  else state.setAgenda (waits ++ state.joins ++ [.finish])

def statusOf (state : State) (child : Child) : Option ExitStatus :=
  state.processes[child.process]?.bind (·.status)

def countWait (state : State) (child : Child) : State :=
  { state with processes := state.processes.modify child.process fun process =>
      { process with waits := process.waits + 1 } }

def kill (state : State) (index : Nat) : State :=
  match state.processes[index]? with
  | some process => if process.isRunning then state.finish index (.signal killSignal) else state
  | none => state

def describe (host : Host) (child : Child) : String :=
  child.program ++ " (pid " ++ toString (pidOf host child.process) ++ ")"

/-- Carries out one action, the rest of the agenda already set. -/
def act (host : Host) (state : State) : Action → Option State
  | .spawn stage first last => some (state.spawn host stage first last)
  | .settle => some (state.settle host)
  | .kill child => some ((state.note .debug ("killing " ++ describe host child)).kill child.process)
  | .reap child => (state.statusOf child).map fun _ => state.countWait child
  | .wait child =>
    (state.statusOf child).map fun status =>
      let state := (state.countWait child).note .debug
        (describe host child ++ " exited with " ++ status.text)
      { state with conductor := { state.conductor with
          statuses := state.conductor.statuses ++ [⟨child.program, status⟩] } }
  | .join copier =>
    match state.copiers[copier]? with
    | some copier => if copier.isDone then some state else none
    | none => some state
  | .report =>
    some (state.conductor.statuses.foldl (fun state stage =>
      state.note .debug ("background " ++ stage.program ++ " finished: " ++ stage.status.text)) state)
  | .finish =>
    some { state with conductor := { state.conductor with
        held := none
        outcome := some (.ok (.foreground state.conductor.statuses)) } }
  | .fail error =>
    some { state with conductor := { state.conductor with held := none, outcome := some (.error error) } }

def conduct (host : Host) (state : State) : Option State :=
  match state.conductor.agenda with
  | [] => none
  | action :: agenda => (state.setAgenda agenda).act host action

/-- The next thing that a thread for a line in the background does. Such a thread
has started all of its stages. -/
def reap (host : Host) (state : State) (number : Nat) : Option State :=
  match state.reapers[number]? with
  | none => none
  | some reaper =>
    (conduct host { state with conductor := reaper }).map fun after =>
      { after with conductor := state.conductor, reapers := state.reapers.set number after.conductor }

/-- The next thing that an actor does, the shell being alive. -/
def turn (host : Host) (state : State) : Actor → Option State
  | .conductor => state.conduct host
  | .reaper number => state.reap host number
  | .process index =>
    match state.processes[index]? with
    | some process =>
      if process.isRunning && !process.stopped then state.moveProcess host index process else none
    | none => none
  | .copier number =>
    match state.copiers[number]? with
    | some copier => state.moveCopier host number copier
    | none => none
  | .clock => state.passTime

/-- The next thing that an actor does; nothing if it is blocked or done, or if the
shell was killed. -/
def move (host : Host) (state : State) (actor : Actor) : Option State :=
  if state.killed.isSome then none else state.turn host actor

end State

/-- One state leads to another when some actor can move from it to there. -/
def Step (host : Host) (before after : State) : Prop :=
  ∃ actor, before.move host actor = some after

end PipeShell.Pipeline
