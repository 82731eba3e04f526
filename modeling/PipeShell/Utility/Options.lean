import PipeShell.Utility.Quoting

/-! # Options of a call

The arguments of a call are options and operands. An option is a letter or a long
name, which may be shortened as long as it is clear which one is meant; some take a
value. What is wrong with the first faulty argument is why the call is refused. -/

set_option autoImplicit false

namespace PipeShell.Utility

structure Refusal where
  /-- What is said about it; nothing if it is empty. -/
  message : String
  also : List String := []
  details : List String := []
  hinted : Bool := true
  /-- The code of the exit, unless it is the usual one. -/
  code : Option UInt8 := none
  deriving DecidableEq, Repr

structure Options where
  /-- The option letters in order, with their values. -/
  given : List (Char × String) := []
  operands : List String := []
  deriving DecidableEq, Repr

namespace Options

def has (options : Options) (letter : Char) : Bool := options.given.any (·.1 == letter)

def lastOf? (options : Options) (letters : List Char) : Option Char :=
  (options.given.reverse.find? fun (letter, _) => letters.contains letter).map (·.1)

def value? (options : Options) (letter : Char) : Option String :=
  (options.given.reverse.find? (·.1 == letter)).map (·.2)

def add (options : Options) (letter : Char) (value : String) : Options :=
  { options with given := options.given ++ [(letter, value)] }

end Options

structure OptionTable where
  flags : List Char := []
  valued : List Char := []
  /-- Letters that take a value only if it follows in the same word. -/
  optional : List Char := []
  /-- Letters with a value that take the next word for it only if that is a number. -/
  counted : List Char := []
  /-- Long names with the letters they stand for; a sign takes the place of a letter
  that there is not. -/
  long : List (String × Char) := []
  /-- The option whose value a number among the letters is. -/
  numeric : Option Char := none
  /-- Whether a word is an operand that looks like an option. -/
  isOperand : String → Bool := fun _ => false
  /-- Whether the first operand ends the options. -/
  ordered : Bool := false
  /-- How an operand is an option in an older manner, if it is: the option, its value,
  and whether the value comes from the word behind as well. -/
  older : String → Option String → Option (Char × String × Bool) := fun _ _ => none
  /-- What is wrong with the value of an option, if something is. -/
  check : Char → String → Option Refusal := fun _ _ => none

inductive OptionError where
  | unknownLetter (letter : Char)
  | unknownName (text : String)
  | ambiguous (text : String) (names : List String)
  | missingValue (letter : Char)
  | missingLongValue (name : String)
  | extraValue (name : String)
  deriving DecidableEq, Repr

def OptionError.message : OptionError → String
  | .unknownLetter letter => "invalid option -- '" ++ String.singleton letter ++ "'"
  | .unknownName text => "unrecognized option '--" ++ text ++ "'"
  | .ambiguous text names =>
    "option '--" ++ text ++ "' is ambiguous; possibilities:" ++ String.join (names.map fun name => " '--" ++ name ++ "'")
  | .missingValue letter => "option requires an argument -- '" ++ String.singleton letter ++ "'"
  | .missingLongValue name => "option '--" ++ name ++ "' requires an argument"
  | .extraValue name => "option '--" ++ name ++ "' doesn't allow an argument"

/-- The letters of one argument; a sign is none. The answer is what is read and, for an option
whose value is the next argument, its letter; or what is wrong. -/
def readLetters (table : OptionTable) (options : Options) :
    List Char → Except (Options × OptionError) (Options × Option Char)
  | [] => .ok (options, none)
  | letter :: rest =>
    if !letter.isAlphanum then .error (options, .unknownLetter letter)
    else if table.flags.contains letter then readLetters table (options.add letter "") rest
    else if table.valued.contains letter then
      if rest.isEmpty then .ok (options, some letter)
      else .ok (options.add letter (String.ofList rest), none)
    else if table.optional.contains letter then .ok (options.add letter (String.ofList rest), none)
    else
      match table.numeric with
      | none => .error (options, .unknownLetter letter)
      | some option =>
        if !letter.isDigit then .error (options, .unknownLetter letter)
        else
          let digits := letter :: rest.takeWhile Char.isDigit
          readLetters table (options.add option (String.ofList digits)) (rest.dropWhile Char.isDigit)
termination_by letters => letters.length
decreasing_by
  all_goals
    have := (List.dropWhile_sublist (l := rest) Char.isDigit).length_le
    simp only [List.length_cons]
    omega

def helpLetter : Char := '?'

def versionLetter : Char := '*'

def sharedLong : List (String × Char) := [("help", helpLetter), ("version", versionLetter)]

/-- The long option that a text means: the one of that name, or else the only one
whose name begins so. -/
def findLong (table : OptionTable) (text : String) : Except OptionError (String × Char) :=
  let long := table.long ++ sharedLong
  match long.find? (·.1 == text) with
  | some found => .ok found
  | none =>
    let found := long.filter fun (name, _) => text.toList.isPrefixOf name.toList
    match found with
    | [] => .error (.unknownName text)
    | first :: others =>
      if others.all (·.2 == first.2) then .ok first else .error (.ambiguous text (found.map (·.1)))

/-- The option of a long name. The answer is what is read and, for an option whose
value is the next argument, the option; or what is wrong. -/
def readLong (table : OptionTable) (options : Options) (word : String) :
    Except OptionError (Options × Option (String × Char)) := do
  let body := word.toList.drop 2
  let value := body.dropWhile (· != '=')
  match findLong table (String.ofList (body.takeWhile (· != '='))) with
  | .error (.unknownName _) => .error (.unknownName (String.ofList body))
  | .error e => .error e
  | .ok (name, letter) =>
    if value.isEmpty then
      if table.valued.contains letter then .ok (options, some (name, letter)) else .ok (options.add letter "", none)
    else if table.valued.contains letter || table.optional.contains letter then
      .ok (options.add letter (String.ofList (value.drop 1)), none)
    else .error (.extraValue name)

inductive ArgumentKind where
  | divider
  | longOption
  | letters (letters : List Char)
  | operand
  deriving DecidableEq, Repr

def OptionTable.kindOf (table : OptionTable) (word : String) : ArgumentKind :=
  if table.isOperand word then .operand
  else
    match word.toList with
    | ['-', '-'] => .divider
    | '-' :: '-' :: _ => .longOption
    | '-' :: letter :: letters => .letters (letter :: letters)
    | _ => .operand

/-- Reads the arguments: options may stand between operands unless the first
operand ends them, and so does `--`. What is read in front of a fault is kept. -/
def readArguments (table : OptionTable) (options : Options) : List String → Options × Option OptionError
  | [] => (options, none)
  | word :: rest =>
    match table.kindOf word with
    | .divider => ({ options with operands := options.operands ++ rest }, none)
    | .longOption =>
      match readLong table options word with
      | .error e => (options, some e)
      | .ok (options, none) => readArguments table options rest
      | .ok (options, some (name, letter)) =>
        match rest with
        | [] => (options, some (.missingLongValue name))
        | value :: rest => readArguments table (options.add letter value) rest
    | .letters letters =>
      match readLetters table options letters with
      | .error (options, e) => (options, some e)
      | .ok (options, none) => readArguments table options rest
      | .ok (options, some letter) =>
        match rest with
        | [] => (options, some (.missingValue letter))
        | value :: rest =>
          if table.counted.contains letter && !value.toList.all Char.isDigit then
            readArguments table (options.add letter "") (value :: rest)
          else readArguments table (options.add letter value) rest
    | .operand =>
      if table.ordered then ({ options with operands := options.operands ++ word :: rest }, none)
      else
        match table.older word rest.head?, rest with
        | some (letter, value, true), _ :: rest => readArguments table (options.add letter value) rest
        | some (letter, value, _), rest => readArguments table (options.add letter value) rest
        | none, rest => readArguments table { options with operands := options.operands ++ [word] } rest

def firstRefusal (table : OptionTable) (options : Options) (fault : Option OptionError) : Option Refusal :=
  match options.given.findSome? fun (letter, value) => table.check letter value with
  | some refusal => some refusal
  | none => fault.map fun e => { message := e.message }

def asksAbout (table : OptionTable) (options : Options) : Bool :=
  let front := options.given.takeWhile fun (letter, _) => letter != helpLetter && letter != versionLetter
  front.length != options.given.length && (front.findSome? fun (letter, value) => table.check letter value).isNone

abbrev Choices (α : Type) := List (String × α)

namespace Choices

variable {α : Type} [BEq α]

/-- What a text chooses: the value of that name, or else the only one with a name
that begins so. What is wrong with another text is told. -/
def choose (choices : Choices α) (text : String) : Except String α :=
  match choices.lookup text with
  | some value => .ok value
  | none =>
    match choices.filter fun (name, _) => text.toList.isPrefixOf name.toList with
    | [] => .error "invalid"
    | (_, first) :: others => if others.all (·.2 == first) then .ok first else .error "ambiguous"

def lines (choices : Choices α) : List String :=
  (choices.splitBy fun a b => a.2 == b.2).map fun names =>
    "  - " ++ String.intercalate ", " (names.map fun (name, _) => shown name)

def refusal? (choices : Choices α) (option text : String) : Option Refusal :=
  match choices.choose text with
  | .ok _ => none
  | .error fault =>
    some {
      message := fault ++ " argument " ++ shown text ++ " for " ++ shown option
      details := "Valid arguments are:" :: choices.lines
      code := some 1 }

end Choices

end PipeShell.Utility
