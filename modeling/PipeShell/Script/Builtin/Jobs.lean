import PipeShell.Script.Builtin.Basic

/-! # Commands that were sent off

Commands that show what a script has sent off, and wait for it. -/

set_option autoImplicit false

namespace PipeShell.Script.Builtin

open PipeShell.System

def lookAround (next : Next) : Nat → State → Program
  | 0, state => next state
  | bound + 1, state =>
    .wait .passing fun answer =>
      match answer with
      | .ended pid status => lookAround next bound (state.withEnded pid status)
      | _ => next state

/-- A job as it is shown, with the sign of the current job or the one before. -/
def jobRow (withNumbers : Bool) (sign : String) (job : Job) : String :=
  let pad (text : String) : String := text ++ String.ofList (List.replicate (max 1 (33 - text.length)) ' ')
  let lead := "[" ++ toString job.number ++ "] " ++ sign ++ " "
  let pids := job.processes.map fun (pid, _) => toString pid
  if !withNumbers then
    pad (lead ++ job.text) ++ String.join (job.processes.tail.map fun _ => " | ") ++ "\n"
  else
    let others := pids.tail.map fun pid =>
      " |\n" ++ pad (String.ofList (List.replicate lead.length ' ') ++ pid ++ " ")
    pad (lead ++ pids.headD "" ++ " " ++ job.text) ++ String.join others ++ "\n"

inductive JobView where
  | short
  | long
  /-- Only the number of the first process. -/
  | leader
  deriving DecidableEq, Repr

/-- A job as it is shown, and the jobs that are known behind it: one that has ended is
forgotten when it is told. -/
def showJob (view : JobView) (job : Job) (jobs : List Job) : String × List Job :=
  let place := jobs.findIdx (·.number == job.number)
  let sign := if place = 0 then "+" else if place = 1 then "-" else " "
  if view = .leader then (toString ((job.processes.head?.map (·.1)).getD 0) ++ "\n", jobs)
  else (jobRow (view = .long) sign job, if job.isDone then jobs.filter (·.number != job.number) else jobs)

def showJobs : Builtin := fun _ outcomes words state =>
  withOptions ['l', 'p'] [] outcomes words state fun given words =>
    let view : JobView :=
      match given.getLast?.map (·.1) with
      | some 'l' => .long
      | some _ => .leader
      | none => .short
    let telling (printed : String) (job : Job) (state : State) : String × State :=
      let (row, jobs) := showJob view job state.jobs
      (printed ++ row, { state with jobs })
    let rec named (printed : String) (state : State) : List String → Program
      | [] => printText outcomes printed 0 state
      | word :: rest =>
        match state.findJob (some word) with
        | .ok job =>
          let (printed, state) := telling printed job state
          named printed state rest
        | .error text => printText { outcomes with next := refuse outcomes text } printed 0 state
    if words.isEmpty then
      lookAround (fun state =>
        let (printed, state) := state.jobs.foldl (fun (printed, state) job => telling printed job state) ("", state)
        printText outcomes printed 0 state) Program.lifetime state
    else named "" state words

/-- Refuses to continue a job: there is no control of jobs that could have stopped one. -/
def resume : Builtin := fun _ outcomes words state =>
  withOptions [] [] outcomes words state fun _ words =>
    match state.findJob words.head? with
    | .ok _ => refuse outcomes ("job " ++ words.headD "(null)" ++ " not created under job control") state
    | .error text => refuse outcomes text state

def markWaited (number : Nat) (state : State) : State :=
  { state with jobs := state.jobs.map fun job => if job.number = number then { job with waited := true } else job }

def interrupt (outcomes : Outcomes) (state : State) : Program :=
  .noted fun signals =>
    done outcomes (128 + signals.headD 0) { state with pending := state.pending ++ signals }

/-- Waits until a job has ended, or all jobs if none is given. What killed a process
of the job that is waited for is told. -/
def waitForJob (outcomes : Outcomes) (number : Option Nat) (next : Next) : Nat → State → Program
  | 0, state => next state
  | bound + 1, state =>
    let isOver : Bool :=
      match number with
      | some number => (state.jobs.find? (·.number == number)).all Job.isDone
      | none => state.jobs.all Job.isDone
    if isOver then next state
    else
      .wait .alert fun answer =>
        match answer with
        | .ended pid status =>
          let proceed : Next := waitForJob outcomes number next bound
          let awaited := state.jobs.any fun job => some job.number == number && job.processes.any (·.1 == pid)
          let state := state.withEnded pid status
          match (if awaited then deathNotice status else none) with
          | some text => state.say (text ++ "\n") proceed
          | none => proceed state
        | .interrupted => interrupt outcomes state
        | .nobody => next state

/-- Waits for jobs that are named, one after the other. The status is that of the
last one that is known. -/
def waitForNamed (outcomes : Outcomes) : List String → State → Program
  | [], state => done outcomes state.status state
  | word :: rest, state =>
    let go (job : Option Job) : Program :=
      match job with
      | none => waitForNamed outcomes rest state
      | some job =>
        waitForJob outcomes (some job.number) (fun state =>
          let status := ((state.jobs.find? (·.number == job.number)).map Job.status).getD .success
          waitForNamed outcomes rest ((markWaited job.number state).withStatus (codeOf status))) Program.lifetime state
    if word.toList.head? == some '%' then
      match state.findJob (some word) with
      | .ok job => go (some job)
      | .error text => refuse outcomes text state
    else
      match number word with
      | .ok pid => go (state.jobs.find? (·.pid == pid))
      | .error text => refuse outcomes text state

def wait : Builtin := fun _ outcomes words state =>
  withOptions [] [] outcomes words state fun _ words =>
    if words.isEmpty then
      waitForJob outcomes none (fun state =>
        done outcomes 0 { state with jobs := state.jobs.map fun job => { job with waited := true } }) Program.lifetime state
    else waitForNamed outcomes words (state.withStatus 127)

end PipeShell.Script.Builtin
