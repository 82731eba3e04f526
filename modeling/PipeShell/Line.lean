import PipeShell.Token

/-! # Lines

A parsed line of input: the stages of one pipeline, the files at its ends, and
whether it runs in the background. Redirections belong to the line, not to a
stage: input feeds the first stage, output and errors leave the last one. -/

set_option autoImplicit false

namespace PipeShell

/-- One command of a pipeline: the program's name and its arguments. -/
structure Stage where
  argv : List String
  deriving DecidableEq, Repr

/-- The name of the program; empty when the stage has no words at all. -/
def Stage.program (stage : Stage) : String := stage.argv.headD ""

/-- A file that receives output. -/
structure OutputTarget where
  path : String
  /-- Whether the old content stays. -/
  append : Bool
  deriving DecidableEq, Repr

structure Line where
  stages : List Stage := []
  input : Option String := none
  output : Option OutputTarget := none
  error : Option OutputTarget := none
  background : Bool := false
  deriving DecidableEq, Repr

namespace Line

def blank : Line := {}

/-- A line without stages runs nothing, whatever it redirects. -/
def isEmpty (line : Line) : Bool := line.stages.isEmpty

/-- The name of the first stage's program, if there is a stage. -/
def program? (line : Line) : Option String := line.stages.head?.map (·.program)

/-- Redirects one end of the line. Each end has one file: a later operator for
the same end replaces an earlier one, also when one truncates and the other
appends. -/
def redirect (line : Line) (operator : Operator) (path : String) : Line :=
  match operator with
  | .input => { line with input := some path }
  | .output => { line with output := some ⟨path, false⟩ }
  | .outputAppend => { line with output := some ⟨path, true⟩ }
  | .error => { line with error := some ⟨path, false⟩ }
  | .errorAppend => { line with error := some ⟨path, true⟩ }

end Line

/-- Why a line cannot be parsed. -/
inductive ParseError where
  /-- A redirection is not followed by a word. -/
  | missingOperand (operator : Operator)
  deriving DecidableEq, Repr

def ParseError.message : ParseError → String
  | .missingOperand operator => "missing file for redirection `" ++ operator.symbol ++ "`"

end PipeShell
