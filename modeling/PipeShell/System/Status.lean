/-! # Signals and exit statuses

What the system knows of signals: their names, and which of them do nothing to a
process that has made no plans for them. A process ends by itself with a code, or a
signal kills it. -/

set_option autoImplicit false

namespace PipeShell.System

/-! ## Signals -/

/-- The signals that have a name, with their names. -/
def signalNames : List (Nat × String) :=
  [(1, "SIGHUP"), (2, "SIGINT"), (3, "SIGQUIT"), (4, "SIGILL"), (5, "SIGTRAP"), (6, "SIGABRT"),
    (7, "SIGBUS"), (8, "SIGFPE"), (9, "SIGKILL"), (10, "SIGUSR1"), (11, "SIGSEGV"), (12, "SIGUSR2"),
    (13, "SIGPIPE"), (14, "SIGALRM"), (15, "SIGTERM"), (16, "SIGSTKFLT"), (17, "SIGCHLD"),
    (18, "SIGCONT"), (19, "SIGSTOP"), (20, "SIGTSTP"), (21, "SIGTTIN"), (22, "SIGTTOU"), (23, "SIGURG"),
    (24, "SIGXCPU"), (25, "SIGXFSZ"), (26, "SIGVTALRM"), (27, "SIGPROF"), (28, "SIGWINCH"), (29, "SIGIO"),
    (30, "SIGPWR"), (31, "SIGSYS")]

def killSignal : Nat := 9

/-- The signal that ends a process which writes to a pipe that nobody reads. -/
def brokenPipeSignal : Nat := 13

/-- The signal that tells a process that one of its children has ended. -/
def childSignal : Nat := 17

def continueSignal : Nat := 18

/-- The signals that do nothing to a process which has made no plans for them. The
number 0 only asks whether there is a process. -/
def harmlessSignals : List Nat := [0, 17, 18, 23, 28]

def finalSignals : List Nat := [killSignal, 19]

/-- The signals that stop a process which has made no plans for them. -/
def stopSignals : List Nat := [19, 20, 21, 22]

/-! ## Statuses -/

inductive ExitStatus where
  /-- The process ended by itself with a code from 0 to 255. -/
  | code (code : UInt8)
  /-- A signal killed the process. -/
  | signal (number : Nat)
  deriving DecidableEq, Repr

namespace ExitStatus

/-- The status of a process that did what it was asked to do. -/
def success : ExitStatus := .code 0

def isSuccess (status : ExitStatus) : Bool := status == success

/-- The text of the status; a signal without a name, such as a realtime signal,
is given by its number alone. -/
def text : ExitStatus → String
  | .code value => "exit status: " ++ toString value.toNat
  | .signal number =>
    match signalNames.find? (·.1 == number) with
    | some (_, name) => "signal: " ++ toString number ++ " (" ++ name ++ ")"
    | none => "signal: " ++ toString number

end ExitStatus

end PipeShell.System
