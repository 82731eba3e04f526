import PipeShell.Line
import PipeShell.Token.Lexer

/-! # From tokens to a line

Pipes cut the tokens into segments. Inside a segment a redirection takes the
next token as its file, which must be a word of the same segment; the background
mark concerns the whole line wherever it stands; every other word is an argument
of the segment's stage. A segment without arguments makes no stage, so stray
pipes are harmless. -/

set_option autoImplicit false

namespace PipeShell.Line

/-- The state in the middle of a line: the line so far, and the arguments of the
open segment, the last one first. -/
structure Draft where
  line : Line
  arguments : List String
  deriving DecidableEq, Repr

def Draft.start : Draft := ⟨.blank, []⟩

/-- Closes the open segment: its arguments become a stage if there are any. -/
def Draft.close (draft : Draft) : Line :=
  if draft.arguments.isEmpty then draft.line
  else { draft.line with stages := draft.line.stages ++ [⟨draft.arguments.reverse⟩] }

def Draft.extend (draft : Draft) : List Token → Except ParseError Line
  | [] => .ok draft.close
  | .word text :: rest => Draft.extend { draft with arguments := text :: draft.arguments } rest
  | .background :: rest => Draft.extend { draft with line := { draft.line with background := true } } rest
  | .pipe :: rest => Draft.extend ⟨draft.close, []⟩ rest
  | .redirect operator :: .word path :: rest =>
    Draft.extend { draft with line := draft.line.redirect operator path } rest
  | .redirect operator :: _ => .error (.missingOperand operator)

/-- The line that the tokens make up, possibly an empty one. -/
def build (tokens : List Token) : Except ParseError Line :=
  Draft.start.extend tokens

/-- The line that an input makes up, possibly an empty one. Blanks around the
input do not count. -/
def ofInput (input : String) : Except ParseError Line :=
  build (Token.scan (Text.trim input.toList))

/-- Parses a line of input; nothing when there is nothing to run. A line without
stages is dropped together with its redirections. -/
def parse (input : String) : Except ParseError (Option Line) :=
  match ofInput input with
  | .error e => .error e
  | .ok line => .ok (if line.isEmpty then none else some line)

end PipeShell.Line
