import PipeShell.System.Failure
import PipeShell.Text.Comparison

/-! # Execution errors

Everything that can go wrong between a parsed line and its statuses. Why a stage could
not be started is told from the failure that starting it ended with: the kind and the
error number decide, and the text of the failure is looked at only when there is no
number. -/

set_option autoImplicit false

namespace PipeShell

/-! ## Stages that cannot be started -/

/-- Why a program could not be started. -/
inductive LaunchError where
  | executableNotFound (program : String)
  | permissionDenied (program : String)
  /-- Any other reason, with the text of the failure. -/
  | other (program detail : String)
  deriving DecidableEq, Repr

namespace LaunchError

def message : LaunchError → String
  | .executableNotFound program => program ++ ": command not found"
  | .permissionDenied program => program ++ ": permission denied"
  | .other program detail => program ++ ": " ++ detail

/-- Classifies a failure by its text alone. A missing file is looked for before
a missing permission. -/
def ofMessage (program message : String) : LaunchError :=
  if Text.containsPart message "No such file" || Text.containsPart message "cannot find the file" then
    .executableNotFound program
  else if Text.containsPart message "Access is denied" || Text.containsPart message "Permission denied" then
    .permissionDenied program
  else .other program message

def ofFailure (program : String) (failure : System.Failure) : LaunchError :=
  match failure.kindOf with
  | .notFound => .executableNotFound program
  | .permissionDenied => .permissionDenied program
  | _ =>
    match failure.errno? with
    | some _ => .other program failure.message
    | none => ofMessage program failure.message

end LaunchError

/-! ## Lines that cannot be carried out -/

/-- A redirection target that was found unfit before anything was opened. The
path is the one the line gives. -/
inductive ValidationError where
  | inputFileMissing (path : String)
  | inputFileUnreadable (path : String)
  | outputFileUnwritable (path : String)
  | errorFileUnwritable (path : String)
  deriving DecidableEq, Repr

def ValidationError.message : ValidationError → String
  | .inputFileMissing path => "input file not found: " ++ path
  | .inputFileUnreadable path => "input file is not readable: " ++ path
  | .outputFileUnwritable path => "cannot write to output file: " ++ path
  | .errorFileUnwritable path => "cannot write to error file: " ++ path

/-- Why a line could not be carried out. A failed wait is no such reason: a child of the shell
that nobody else waits for can be waited for, and a wait that a signal interrupts is begun
again by the system's library. -/
inductive ExecError where
  /-- A redirection target failed a check; nothing was opened. -/
  | validation (error : ValidationError)
  /-- A stage could not be started. -/
  | launch (error : LaunchError)
  /-- An operation failed; the context is the path it was about. -/
  | io (context : String) (failure : System.Failure)
  deriving DecidableEq, Repr

def ExecError.message : ExecError → String
  | .validation error => error.message
  | .launch error => error.message
  | .io context failure => context ++ ": " ++ failure.message

end PipeShell
