import PipeShell.Script.State

/-! # Copies of the process

A part of a script that runs apart from the rest is carried out by a copy of the
process, for which the script may wait. -/

set_option autoImplicit false

namespace PipeShell.Script

open PipeShell.System

def copiedHoldings (state : State) (holdings : Holdings) : Holdings :=
  state.actedOn.foldl (fun holdings signal => holdings.setPlan signal .usual) holdings

def forkCopy (context : Context) (state : State) (change : Holdings → Holdings) (body : Context → State → Program)
    (next : Nat → Program) : Program :=
  .fork (fun holdings => change (copiedHoldings state holdings))
    (fun pid => body { context with own := pid, above := context.own } state.copied) next

def notice (status : ExitStatus) (state : State) (next : Next) : Program :=
  match deathNotice status with
  | none => next state
  | some text => state.say (text ++ "\n") next

/-- Waits until all of some processes have ended, and goes on with the status of
the last of them. -/
def await (next : ExitStatus → Next) : Nat → List (Nat × Option ExitStatus) → State → Program
  | 0, _, state => next .success state
  | bound + 1, processes, state =>
    let job : Job := { number := 0, processes }
    if job.isDone then next job.status state
    else
      .wait .patient fun answer =>
        match answer with
        | .ended pid status =>
          if processes.any (·.1 == pid) then
            notice status state (await next bound (job.withEnded pid status).processes)
          else await next bound processes (state.withEnded pid status)
        | _ => next job.status state

def awaitAll (pids : List Nat) (state : State) (next : Next) : Program :=
  await (fun status state => next (state.withStatus (codeOf status))) Program.lifetime
    (pids.map fun pid => (pid, none)) state

end PipeShell.Script
