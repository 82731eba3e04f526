/-! # Themes

The fixed messages of the shell and the colours they are shown in. -/

set_option autoImplicit false

namespace PipeShell

/-- A way to colour text on a terminal. -/
structure Style where
  /-- The codes that switch the style on, as a terminal reads them. -/
  codes : String
  deriving DecidableEq, Repr

namespace Style

def start (style : Style) : String := "\x1b[" ++ style.codes ++ "m"

def reset : String := "\x1b[0m"

/-- The text in the style. What the text itself switches off is switched on
again behind it. Without colours the text stays as it is. -/
def paint (style : Style) (colour : Bool) (text : String) : String :=
  if colour then
    style.start ++ String.intercalate (reset ++ style.start) (text.splitOn reset) ++ reset
  else text

end Style

/-- The colours of everything the shell itself says. -/
structure Theme where
  prompt : Style
  success : Style
  warning : Style
  error : Style
  deriving DecidableEq, Repr

namespace Theme

/-- The colours used unless another theme is asked for. -/
def standard : Theme := ⟨⟨"96"⟩, ⟨"92"⟩, ⟨"33"⟩, ⟨"91"⟩⟩

def dark : Theme := ⟨⟨"1;95"⟩, ⟨"32"⟩, ⟨"93"⟩, ⟨"31"⟩⟩

/-- The theme with the given name. Unknown names mean the standard theme. -/
def named (name : String) : Theme := if name == "dark" then dark else standard

def messages : List (String × String) :=
  [("welcome", "MiniShell ready."),
    ("help", "Pipes (|), redirections (< > >> 2> 2>>) and & are supported. Type `exit` to leave."),
    ("prompt", "ms$"),
    ("exit", "Bye."),
    ("eof_signal", "EOF received, leaving."),
    ("interrupt_signal", "Interrupted. Type `exit` to leave."),
    ("error", "error"),
    ("parse_error", "parse error"),
    ("background", "running in background"),
    ("exit_status", "exit status"),
    ("current_dir", "current directory")]

/-- The message with the given key. An unknown key stands for itself. -/
def message (key : String) : String := (messages.lookup key).getD key

def renderPrompt (theme : Theme) (colour : Bool) (directory : String) : String :=
  theme.prompt.paint colour (message "prompt" ++ " " ++ directory ++ "@>") ++ " "

end Theme

end PipeShell
