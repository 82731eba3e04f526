import PipeShell.System.Status

/-! # Jobs

The commands that a script has sent off to run by themselves, and the codes that
it sees of how they ended. -/

set_option autoImplicit false

namespace PipeShell.Script

open PipeShell.System

structure Job where
  number : Nat
  /-- The numbers of the processes in order, with how they ended. -/
  processes : List (Nat × Option ExitStatus)
  /-- Whether the script has waited for it. -/
  waited : Bool := false
  deriving DecidableEq, Repr

namespace Job

def pid (job : Job) : Nat := (job.processes.getLast?.map (·.1)).getD 0

def isDone (job : Job) : Bool := job.processes.all (·.2.isSome)

def isForgettable (job : Job) : Bool := job.isDone && job.waited

def status (job : Job) : ExitStatus := (job.processes.getLast?.bind (·.2)).getD .success

def withEnded (pid : Nat) (status : ExitStatus) (job : Job) : Job :=
  { job with processes := job.processes.map fun (number, before) =>
      (number, if number = pid then some status else before) }

end Job

def codeOf : ExitStatus → Nat
  | .code code => code.toNat
  | .signal number => 128 + number

def signalText (number : Nat) : String :=
  match number with
  | 1 => "Hangup"
  | 2 => "Interrupt"
  | 3 => "Quit"
  | 4 => "Illegal instruction"
  | 5 => "Trace/breakpoint trap"
  | 6 => "Aborted"
  | 7 => "Bus error"
  | 8 => "Floating point exception"
  | 9 => "Killed"
  | 10 => "User defined signal 1"
  | 11 => "Segmentation fault"
  | 12 => "User defined signal 2"
  | 13 => "Broken pipe"
  | 14 => "Alarm clock"
  | 15 => "Terminated"
  | 16 => "Stack fault"
  | 24 => "CPU time limit exceeded"
  | 25 => "File size limit exceeded"
  | 26 => "Virtual timer expired"
  | 27 => "Profiling timer expired"
  | 29 => "I/O possible"
  | 30 => "Power failure"
  | 31 => "Bad system call"
  | number =>
    if 34 ≤ number then "Real-time signal " ++ toString (number - 34) else "Unknown signal " ++ toString number

/-- What is said about a program that a signal killed. Interrupts and broken pipes
are not worth a word. -/
def deathNotice : ExitStatus → Option String
  | .code _ => none
  | .signal number => if number = 2 || number = 13 then none else some (signalText number)

def Job.text (job : Job) : String :=
  if !job.isDone then "Running"
  else
    match job.status with
    | .code 0 => "Done"
    | .code code => "Done(" ++ toString code.toNat ++ ")"
    | .signal number => signalText number

end PipeShell.Script
