import PipeShell.Script.Command

/-! # Options of scripts

Options have a letter or a name or both. They are switched on behind a minus
sign and off behind a plus sign. -/

set_option autoImplicit false

namespace PipeShell.Script.Options

/-- The options by name, with their letters. The last two have letters that
nobody can write. -/
def names : List (String × Char) :=
  [("errexit", 'e'), ("noglob", 'f'), ("ignoreeof", 'I'), ("interactive", 'i'), ("monitor", 'm'), ("noexec", 'n'),
    ("stdin", 's'), ("xtrace", 'x'), ("verbose", 'v'), ("vi", 'V'), ("emacs", 'E'), ("noclobber", 'C'),
    ("allexport", 'a'), ("notify", 'b'), ("nounset", 'u'), ("privileged", 'p'), ("nolog", '\x01'),
    ("debug", '\x02')]

def letters : List Char := (names.map (·.2)).filter Char.isAlpha

structure Given where
  /-- The letters of the options that are set. -/
  set : List Char
  /-- Whether a command is given on the command line. -/
  command : Bool := false
  /-- Whether the script is the one of somebody who has just come in. -/
  login : Bool := false
  /-- Whether the options are to be shown, and how. -/
  shown : Option Bool := none
  /-- Whether the words behind the options count even if there are none. -/
  closed : Bool := false
  words : List String
  deriving DecidableEq, Repr

def switch (letter : Char) (value : Bool) (set : List Char) : List Char :=
  if value then (if set.contains letter then set else letter :: set) else set.filter (· != letter)

/-- Switches an option by its letter; of the two ways to edit lines only one is on. -/
def switchLetter (letter : Char) (value : Bool) (set : List Char) : List Char :=
  let set := if !value then set else if letter = 'V' then set.filter (· != 'E') else if letter = 'E' then set.filter (· != 'V') else set
  switch letter value set

def readLetters (commandLine value : Bool) : List Char → Given → Except String Given
  | [], given => .ok given
  | letter :: rest, given =>
    if letter = 'c' && commandLine then readLetters commandLine value rest { given with command := true }
    else if letter = 'l' && commandLine then readLetters commandLine value rest { given with login := value }
    else if letter = 'o' then
      match given.words with
      | [] => readLetters commandLine value rest { given with shown := some value }
      | name :: words =>
        match names.lookup name with
        | some letter =>
          readLetters commandLine value rest { given with set := switch letter value given.set, words }
        | none => .error ("Illegal option -o " ++ name)
    else if letters.contains letter then
      readLetters commandLine value rest { given with set := switchLetter letter value given.set }
    else .error ("Illegal option -" ++ String.singleton letter)

def read (commandLine : Bool) : Nat → Given → Except String Given
  | 0, given => .ok given
  | bound + 1, given =>
    match given.words with
    | [] => .ok given
    | word :: words =>
      match word.toList with
      | ['-'] =>
        .ok { given with set := if commandLine then given.set else given.set.filter fun c => c != 'x' && c != 'v', words }
      | ['-', '-'] => .ok { given with words, closed := true }
      | '-' :: letters => do read commandLine bound (← readLetters commandLine true letters { given with words })
      | '+' :: letters => do read commandLine bound (← readLetters commandLine false letters { given with words })
      | _ => .ok given

def describe (readable : Bool) (set : List Char) : String :=
  let line (name : String) (letter : Char) : String :=
    if readable then
      name ++ String.ofList (List.replicate (16 - name.length) ' ') ++ (if set.contains letter then "on" else "off") ++ "\n"
    else "set " ++ (if set.contains letter then "-" else "+") ++ "o " ++ name ++ "\n"
  (if readable then "Current option settings\n" else "") ++ String.join (names.map fun (name, letter) => line name letter)

end PipeShell.Script.Options
