import PipeShell.Text.Comparison
import PipeShell.Text.ControlSequence

/-! # Log records

Each record has a severity; a threshold decides which records are kept. -/

set_option autoImplicit false

namespace PipeShell

/-- How important a record is. -/
inductive Severity where
  | error
  | warn
  | info
  | debug
  | trace
  deriving DecidableEq, Repr

namespace Severity

/-- The position in the order from the most to the least important. -/
def rank : Severity → Nat
  | .error => 1
  | .warn => 2
  | .info => 3
  | .debug => 4
  | .trace => 5

def name : Severity → String
  | .error => "ERROR"
  | .warn => "WARN"
  | .info => "INFO"
  | .debug => "DEBUG"
  | .trace => "TRACE"

end Severity

inductive Threshold where
  /-- No record. -/
  | off
  /-- Records at least as important as the given severity. -/
  | upTo (severity : Severity)
  deriving DecidableEq, Repr

namespace Threshold

def rank : Threshold → Nat
  | .off => 0
  | .upTo severity => severity.rank

def name : Threshold → String
  | .off => "OFF"
  | .upTo severity => severity.name

def all : List Threshold := .off :: [Severity.error, .warn, .info, .debug, .trace].map .upTo

/-- The threshold with the given name in either case; warnings and errors for
an unknown name. -/
def named (name : String) : Threshold :=
  (all.find? fun threshold => Text.equalsIgnoringCase threshold.name name).getD (.upTo .warn)

def strictest (a b : Threshold) : Threshold := if a.rank ≤ b.rank then a else b

def keeps (threshold : Threshold) (severity : Severity) : Bool := severity.rank ≤ threshold.rank

end Threshold

/-- A record of what happened. -/
structure LogRecord where
  severity : Severity
  text : String
  deriving DecidableEq, Repr

/-- What every record of one session begins with. -/
structure LogStamp where
  /-- The number of the shell's own process. -/
  pid : Nat
  /-- The date, as in `2000-01-31`. -/
  date : String
  /-- The time of day, as in `23:59:59`. -/
  time : String
  deriving DecidableEq, Repr

/-- The line that is written for a record, with its control sequences. -/
def LogRecord.fullLine (record : LogRecord) (stamp : LogStamp) : String :=
  "[PID:" ++ toString stamp.pid ++ "][" ++ record.severity.name ++ "] " ++ stamp.date ++ " " ++ stamp.time ++
    " - " ++ record.text ++ "\n"

/-- The line that is written for a record. No command to a terminal gets into it; a
sequence that is not finished takes the end of the line with it. -/
def LogRecord.line (record : LogRecord) (stamp : LogStamp) : String := Text.withoutSequences (record.fullLine stamp)

end PipeShell
