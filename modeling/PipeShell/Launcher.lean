import PipeShell.Line

/-! # Commands

What is asked of the system in order to start a stage: a program, its arguments
and the directory to start in. There are two ways to make a command of a stage's
words. -/

set_option autoImplicit false

namespace PipeShell

/-- A command that can be started. -/
structure Command where
  program : String
  arguments : List String
  directory : String
  deriving DecidableEq, Repr

namespace Command

/-- A text with NUL cannot be handed to the system. -/
def hasNul (text : String) : Bool := text.toList.contains '\x00'

/-- What is shown in place of a text that contains NUL. -/
def placeholder : String := "<string-with-nul>"

def shownText (text : String) : String := if hasNul text then placeholder else text

def shown (command : Command) : Command :=
  ⟨shownText command.program, command.arguments.map shownText, shownText command.directory⟩

/-- Whether every part of the command can be handed to the system. -/
def isSendable (command : Command) : Bool :=
  !(hasNul command.program || command.arguments.any hasNul || hasNul command.directory)

end Command

/-- How a stage becomes a command. -/
inductive Launcher where
  /-- The first word is the program, the others are its arguments. -/
  | native
  /-- All words together are one argument of the command interpreter `cmd`. -/
  | shellWrap
  deriving DecidableEq, Repr

def Launcher.command (launcher : Launcher) (argv : List String) (directory : String) : Command :=
  match launcher with
  | .native => ⟨argv.headD "", argv.tail, directory⟩
  | .shellWrap => ⟨"cmd", ["/C", String.intercalate " " argv], directory⟩

end PipeShell
