import PipeShell.Line
import PipeShell.Text.Quoted
import PipeShell.Token.Lexer

/-! # Writing a line

For a log, a line is shown with all its parts named and every text quoted.

The canonical text of a line: the stages with their arguments, then the
redirections, then the background mark. Words are quoted only where a bare word
could not stand for them. No quoting can write a word that contains both kinds
of quote; such a word is written between single quotes all the same. -/

set_option autoImplicit false

namespace PipeShell

/-- A list of named parts under the name of what they make up. -/
def showParts (name : String) (parts : List (String × String)) : String :=
  name ++ " \x7b " ++ String.intercalate ", " (parts.map fun (part, text) => part ++ ": " ++ text) ++ " \x7d"

def showOptional (text : Option String) : String :=
  match text with
  | some text => "Some(" ++ text ++ ")"
  | none => "None"

def Stage.shown (stage : Stage) : String := showParts "Stage" [("argv", Text.quotedList stage.argv)]

def OutputTarget.shown (target : OutputTarget) : String :=
  showParts "OutputTarget" [("path", Text.quoted target.path), ("append", toString target.append)]

def Line.shown (line : Line) : String :=
  showParts "Line"
    [("stages", "[" ++ String.intercalate ", " (line.stages.map (·.shown)) ++ "]"),
      ("input", showOptional (line.input.map Text.quoted)),
      ("output", showOptional (line.output.map (·.shown))),
      ("error", showOptional (line.error.map (·.shown))),
      ("background", toString line.background)]

end PipeShell

namespace PipeShell.Line

/-- A word is quoted when it is empty or a bare word would end inside it. -/
def needsQuoting (word : List Char) : Bool := word.isEmpty || word.any Token.isWordBreak

/-- The text of a word: bare if possible, else between double quotes, or between
single quotes when it contains a double quote. -/
def renderWord (word : String) : List Char :=
  let text := word.toList
  if !needsQuoting text then text
  else if text.contains '"' then '\'' :: text ++ ['\'']
  else '"' :: text ++ ['"']

/-- The texts of several words or stages with a separator between them. -/
def joinWith (separator : List Char) (items : List (List Char)) : List Char :=
  (items.intersperse separator).flatten

def renderStage (stage : Stage) : List Char := joinWith [' '] (stage.argv.map renderWord)

def renderRedirect (target : Option (Operator × String)) : List Char :=
  match target with
  | none => []
  | some (operator, path) => ' ' :: operator.symbol.toList ++ ' ' :: renderWord path

def OutputTarget.redirection (truncating appending : Operator) (target : OutputTarget) : Operator × String :=
  (if target.append then appending else truncating, target.path)

def render (line : Line) : List Char :=
  joinWith [' ', '|', ' '] (line.stages.map renderStage) ++
    renderRedirect (line.input.map ((.input, ·))) ++
    renderRedirect (line.output.map (OutputTarget.redirection .output .outputAppend)) ++
    renderRedirect (line.error.map (OutputTarget.redirection .error .errorAppend)) ++
    (if line.background then [' ', '&'] else [])

def text (line : Line) : String := String.ofList line.render

end PipeShell.Line
