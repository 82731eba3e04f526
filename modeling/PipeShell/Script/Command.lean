/-! # Commands of a script

The structure of a script for the command interpreter `sh`: words made of
literal and substituted pieces, simple commands with their redirections, and the
ways to combine them. -/

set_option autoImplicit false

namespace PipeShell.Script

inductive FileMode where
  | input
  | output
  /-- For writing, even where files are protected. -/
  | replace
  | append
  | update
  deriving DecidableEq, Repr

mutual

inductive Piece where
  | literal (text : String)
  /-- Text in quotes, which is neither split nor matched; even an empty one makes
  a field. -/
  | quoted (text : String)
  | parameter (name : String) (use : Use) (quoted : Bool)
  | command (body : Command) (quoted : Bool)
  | arithmetic (body : List Piece) (quoted : Bool)

/-- What is done with a parameter. With `orNull`, a parameter without text counts
as missing. -/
inductive Use where
  | value
  | length
  | faulty
  /-- Another word stands for a missing parameter. -/
  | fallback (orNull : Bool) (word : List Piece)
  | supply (orNull : Bool) (word : List Piece)
  | require (orNull : Bool) (word : List Piece)
  /-- Another word stands for a parameter that is not missing. -/
  | alternative (orNull : Bool) (word : List Piece)
  /-- The value without the beginning or the end that a pattern covers. -/
  | cut (atEnd longest : Bool) (pattern : List Piece)

inductive Redirect where
  | file (descriptor : Nat) (mode : FileMode) (target : List Piece)
  /-- Makes one descriptor lead where another one leads. -/
  | duplicate (descriptor : Nat) (target : List Piece)
  /-- Reads a text of the script, known by its number. -/
  | document (descriptor number : Nat)

inductive Command where
  | nothing
  /-- Assignments, the words of a program with its arguments, and
  redirections. -/
  | simple (line : Nat) (assignments : List (String × List Piece)) (words : List (List Piece))
      (redirects : List Redirect)
  /-- The output of each is the input of the next. -/
  | pipe (stages : List Command)
  | negated (body : Command)
  | sequence (first second : Command)
  /-- The second only if the first succeeds. -/
  | both (first second : Command)
  /-- The second only if the first fails. -/
  | either (first second : Command)
  | background (body : Command)
  /-- Runs apart, so that nothing it sets is seen outside. -/
  | subshell (line : Nat) (body : Command) (redirects : List Redirect)
  | conditional (condition positive negative : Command)
  /-- Runs for as long as the condition succeeds, or fails. -/
  | loop (untilSuccess : Bool) (condition body : Command)
  /-- Runs once for each field of the words. -/
  | each (line : Nat) (name : String) (words : List (List Piece)) (body : Command)
  /-- Runs the body of the first case with a pattern that the word matches. -/
  | choose (line : Nat) (word : List Piece) (cases : List (List (List Piece) × Command))
  | define (line : Nat) (name : String) (body : Command)
  | redirected (line : Nat) (body : Command) (redirects : List Redirect)

end

abbrev Word := List Piece

def Word.bare? (word : Word) : Option String :=
  match word with
  | [.literal text] => some text
  | _ => none

def isNameStart (c : Char) : Bool := c.isAlpha || c = '_'

def isNameChar (c : Char) : Bool := c.isAlphanum || c = '_'

def isName (text : String) : Bool :=
  match text.toList with
  | first :: rest => isNameStart first && rest.all isNameChar
  | [] => false

def assignment? (word : Word) : Option (String × Word) :=
  match word with
  | .literal text :: rest =>
    let name := text.toList.takeWhile isNameChar
    match name, text.toList.dropWhile isNameChar with
    | first :: _, '=' :: value =>
      if isNameStart first then
        some (String.ofList name, (if value.isEmpty then [] else [.literal (String.ofList value)]) ++ rest)
      else none
    | _, _ => none
  | _ => none

/-- The commands that are a part of the language: a failure of one of them ends
the script. -/
def specialNames : List String :=
  [".", ":", "break", "continue", "eval", "exec", "exit", "export", "local", "readonly", "return", "set", "shift",
    "times", "trap", "unset"]

end PipeShell.Script
