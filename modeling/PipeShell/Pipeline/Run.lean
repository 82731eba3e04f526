import PipeShell.Pipeline.Step

/-! # Carrying out a line

The targets of the line are opened, and then its stages are started and run. Of
all the orders in which the actors could move, this one lets the shell's threads
and the copiers go first. Only while a long line is being started, which takes a
while, the processes go before them. A process whose turn it is keeps it for as long
as it can move, though not forever; then the one after it gets its turn. Time passes
when nobody else can move, or when somebody has been busy for too long. -/

set_option autoImplicit false

namespace PipeShell.Pipeline

open PipeShell.System

structure Turn where
  /-- The index of the process. -/
  process : Nat := 0
  /-- How many moves it has made in its turn. -/
  moves : Nat := 0
  /-- How many moves processes have made since time passed. -/
  busy : Nat := 0
  /-- How many moves they have made since the line was handed back. -/
  spare : Nat := 0
  /-- How many moves they have made since a stage was started. -/
  ahead : Nat := 0

/-- How many moves a process makes in one turn at most. -/
def turnLimit : Nat := 5000

/-- How many moves take so long that a sleeper wakes up. -/
def busyLimit : Nat := 20000

/-- How many moves the processes of a line in the background make before they are
left alone. -/
def spareLimit : Nat := 1000000

/-- How many stages are started before the first of them does anything. -/
def startupStages : Nat := 10

/-- How many moves the processes of a long line make while another stage of it is being
started. -/
def startupLimit : Nat := 1000

namespace State

/-- Whether another stage of a long line is being started, and those before it have time
to go on meanwhile. -/
def isStarting (state : State) (turn : Turn) : Bool :=
  turn.ahead < startupLimit && startupStages ≤ state.conductor.children.length &&
    match state.conductor.agenda with
    | .spawn .. :: _ => true
    | _ => false

def quickActors (state : State) : List Actor :=
  .conductor :: ((List.range state.reapers.length).map .reaper ++ (List.range state.copiers.length).map .copier)

/-- The processes in the order in which they get their turns. -/
def rotation (state : State) (turn : Turn) : List Nat :=
  let indices := List.range state.processes.length
  let start := if turn.moves < turnLimit then turn.process else turn.process + 1
  indices.drop start ++ indices.take start

/-- The state after the first process that can move has moved. -/
def advanceProcess? (host : Host) (state : State) (turn : Turn) : Option (Turn × State) :=
  (state.rotation turn).findSome? fun index =>
    (state.move host (.process index)).map fun state =>
      let moves := if index = turn.process && turn.moves < turnLimit then turn.moves + 1 else 1
      let spare := if state.conductor.outcome.isSome then turn.spare + 1 else 0
      ({ process := index, moves, busy := turn.busy + 1, spare }, state)

def advanceClock? (host : Host) (state : State) (turn : Turn) : Option (Turn × State) :=
  (state.move host .clock).map fun state => ({ turn with busy := 0 }, state)

/-- Whether there is something to wait for: the line is not yet carried out, or it
goes on in the background and somebody wakes up before some moment. -/
def isAwaited (state : State) (deadline : Nat) : Bool :=
  state.conductor.outcome.isNone || (!state.conductor.agenda.isEmpty && state.wakes.any (· ≤ deadline))

/-- The state after somebody has moved. Time passes only if there is something to
wait for. -/
def advance? (host : Host) (deadline : Nat) (turn : Turn) (state : State) : Option (Turn × State) :=
  match if state.isStarting turn then state.advanceProcess? host turn else none with
  | some (turn, state) => some ({ turn with ahead := turn.ahead + 1 }, state)
  | none =>
    match state.quickActors.findSome? (state.move host) with
    | some state => some ({ turn with ahead := 0 }, state)
    | none =>
      if state.isAwaited deadline then
        if turn.busy < busyLimit then
          (state.advanceProcess? host turn).or (state.advanceClock? host turn)
        else (state.advanceClock? host turn).or (state.advanceProcess? host turn)
      else if turn.spare < spareLimit then state.advanceProcess? host turn
      else none

/-- The state when nobody moves any more, or after so many moves. -/
def run (host : Host) (deadline : Nat) : Nat → Turn → State → State
  | 0, _, state => state
  | bound + 1, turn, state =>
    match state.advance? host deadline turn with
    | none => state
    | some (turn, state) => run host deadline bound turn state

/-- The agenda of a line: its stages in order, the last one marked. -/
def spawns (first : Bool) : List Stage → List Action
  | [] => [.settle]
  | [stage] => [.spawn stage first true, .settle]
  | stage :: rest => .spawn stage first false :: spawns false rest

/-- The state with a file opened, if there is one to open, and where it is. -/
def attach (state : State) : Option OpenFile → State × Option Port
  | none => (state, none)
  | some file => ({ state with opened := state.opened ++ [file] }, some (.file state.opened.length))

/-- The line before its first stage is started, after other lines. The shell's own
input is entry 0 of the open files; the targets follow. -/
def start (before : State) (redirects : Redirects) (line : Line) : State :=
  let state := before
  let (state, input) := state.attach redirects.input
  let (state, output) := state.attach redirects.output
  let (state, error) :=
    match redirects.error with
    | some (.own file) => state.attach (some file)
    | some .shared => (state, output)
    | none => (state, none)
  { state with
    input := input.getD (.file 0)
    output
    error
    background := line.background
    reapers := before.reapers ++ [before.conductor]
    conductor := { agenda := spawns true line.stages, firstCopier := before.copiers.length } }

end State

/-- What carrying out a line leaves behind. -/
structure Execution where
  /-- What the line came to, unless it was stopped before that. -/
  result : Option (Except ExecError Outcome)
  /-- What goes on when the line is carried out, with the open file that is the
  shell's own input. -/
  state : State

namespace Execution

/-- What a line has come to in a state: nothing yet, as long as the shell has neither handed
it back nor given up on it. -/
def ofState (state : State) : Execution where
  result := state.conductor.outcome.map (·.mapError .launch)
  state := state

/-- Whether everything that the line started in the shell is over. -/
def isFinished (execution : Execution) : Bool := execution.state.conductor.agenda.isEmpty

end Execution

namespace State

/-- The state without lines, in which nothing was opened but the shell's own
input. -/
def idle (files : FileSystem) (input : OpenFile) : State := { files, opened := [input] }

/-- The state in which whoever carried out lines no longer looks at what they
write, and another input takes the place of the old one. -/
def detached (state : State) (input : OpenFile) : State :=
  let kept := state.opened.headD input
  let slot := state.opened.length
  let redirect (port : Port) : Port := if port = .file 0 then .file slot else port
  { state with
    opened := (state.opened ++ [kept]).set 0 input
    processes := state.processes.map fun process =>
      { process with holdings := { process.holdings with
          ports := process.holdings.ports.map fun (descriptor, port) => (descriptor, redirect port) } }
    copiers := state.copiers.map fun copier => { copier with sink := none }
    captured := .empty
    complaints := .empty
    log := [] }

end State

/-- Carries out a line for a viewer whose home directory is `home`, after other
lines. -/
def execute (host : Host) (before : State) (viewer : Viewer) (home : Option String) (line : Line) : Execution :=
  let targets := line.targets home host.directory
  let before := { before with captured := .empty, complaints := .empty, log := [] }
  match line.openTargets before.files viewer home host.directory with
  | (left, .error error) =>
    let log := ((targets.unfit? before.files viewer).map (·.record)).toList
    { result := some (.error error), state := { before with files := left, log } }
  | (opened, .ok redirects) =>
    .ofState ((State.start { before with files := opened } redirects line).run host
      (before.clock + host.patience) Program.lifetime {})

end PipeShell.Pipeline
