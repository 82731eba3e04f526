/-! # Tokens

What a line of input is made of before it has any structure: words, pipes,
redirection operators and the background mark. -/

set_option autoImplicit false

namespace PipeShell

inductive Operator where
  /-- Reads the first stage's input from a file. -/
  | input
  /-- Sends the last stage's output to a file, emptied first. -/
  | output
  /-- Adds the last stage's output to a file. -/
  | outputAppend
  /-- Sends the last stage's errors to a file, emptied first. -/
  | error
  /-- Adds the last stage's errors to a file. -/
  | errorAppend
  deriving DecidableEq, Repr

def Operator.symbol : Operator → String
  | .input => "<"
  | .output => ">"
  | .outputAppend => ">>"
  | .error => "2>"
  | .errorAppend => "2>>"

def Operator.all : List Operator := [.input, .output, .outputAppend, .error, .errorAppend]

def Operator.ofSymbol? (symbol : String) : Option Operator :=
  Operator.all.find? (·.symbol == symbol)

theorem Operator.ofSymbol?_symbol (operator : Operator) : ofSymbol? operator.symbol = some operator := by
  cases operator <;> decide

/-- The smallest unit of a line. -/
inductive Token where
  /-- A bare or quoted word. -/
  | word (text : String)
  /-- The mark between two stages. -/
  | pipe
  /-- A redirection; the file it names is the next token. -/
  | redirect (operator : Operator)
  /-- The mark that sends the line to the background. -/
  | background
  deriving DecidableEq, Repr

end PipeShell
