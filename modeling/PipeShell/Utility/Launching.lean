import PipeShell.Utility.Printing

/-! # A changed environment

A program that starts another one with other variables, in another directory, or
with other plans for signals. Its options may also come in one text that is split
into words. -/

set_option autoImplicit false

namespace PipeShell.Utility

open PipeShell.System

def launchCode (failure : Failure) : UInt8 := if failure = .os .noEntry then 127 else 126

/-! ## Words of one text -/

/-- The words that have been read of a text. -/
structure SplitText where
  /-- The letters of the words, the last word and the last letter first. -/
  words : List (List Char) := []
  /-- Whether the next letter begins a word. -/
  fresh : Bool := true
  notes : List String := []

namespace SplitText

def begin (text : SplitText) : SplitText :=
  if text.fresh then { text with words := [] :: text.words, fresh := false } else text

def push (text : SplitText) (c : Char) : SplitText :=
  match text.begin with
  | { words := word :: others, fresh, notes } => { words := (c :: word) :: others, fresh, notes }
  | text => text

def toList (text : SplitText) : List String := (text.words.map fun word => String.ofList word.reverse).reverse

end SplitText

def bracedName? (letters : List Char) : Option (List Char) :=
  match letters with
  | '\x7b' :: rest =>
    let name := rest.takeWhile fun c => c.isAlphanum || c = '_'
    let isName : Bool := !name.isEmpty && !name.head?.any Char.isDigit
    if isName && (rest.drop name.length).head? == some '\x7d' then some name else none
  | _ => none

def splitEscape? (letter : Char) : Option Char :=
  match letter with
  | '"' | '#' | '$' | '\'' | '\\' => some letter
  | 'f' => some '\x0c'
  | 'n' => some '\n'
  | 'r' => some '\r'
  | 't' => some '\t'
  | 'v' => some '\x0b'
  | _ => none

/-- Reads the words of a text: blanks separate them unless they stand between quotes,
a variable in braces stands for its value, and a number sign in front of a word ends
the text. -/
def readSplit (environment : Environment) : Option Char → Nat → SplitText → List Char → Except String SplitText
  | _, 0, text, _ => .ok text
  | quote, _ + 1, text, [] => if quote.isSome then .error "no terminating quote in -S string" else .ok text
  | quote, bound + 1, text, c :: rest =>
    let plain (c : Char) (rest : List Char) : Except String SplitText :=
      readSplit environment quote bound (text.push c) rest
    let inDouble := quote == some '"'
    let inSingle := quote == some '\''
    let isQuote := (c = '"' && !inSingle) || (c = '\'' && !inDouble)
    if isQuote then readSplit environment (if quote.isSome then none else some c) bound text.begin rest
    else if c = '#' && text.fresh then .ok text
    else if isBlankChar c && quote.isNone then readSplit environment quote bound { text with fresh := true } rest
    else if c = '\\' && !(inSingle && !rest.head?.any fun c => c = '\\' || c = '\'') then
      match rest with
      | [] => .error "invalid backslash at end of string in -S"
      | 'c' :: _ => if inDouble then .error "'\\c' must not appear in double-quoted -S string" else .ok text
      | '_' :: rest =>
        if inDouble then plain ' ' rest else readSplit environment quote bound { text with fresh := true } rest
      | letter :: rest =>
        match splitEscape? letter with
        | some c => plain c rest
        | none => .error ("invalid sequence '\\" ++ String.singleton letter ++ "' in -S")
    else if c = '$' && !inSingle then
      match bracedName? rest with
      | none => .error ("only $\x7bVARNAME\x7d expansion is supported, error at: " ++ String.ofList (c :: rest))
      | some name =>
        let behind := rest.drop (name.length + 2)
        let shownName := "$\x7b" ++ String.ofList name ++ "\x7d"
        match environment.get? (String.ofList name) with
        | none =>
          readSplit environment quote bound
            { text with notes := text.notes ++ ["replacing " ++ shownName ++ " with null string"] } behind
        | some value =>
          let filled := value.toList.foldl SplitText.push text.begin
          readSplit environment quote bound
            { filled with notes := filled.notes ++ ["expanding " ++ shownName ++ " into " ++ shown value] } behind
    else plain c rest

/-! ## Signals -/

def signalLabel (number : Nat) : String :=
  if number = 29 then "POLL"
  else
    match signalNames.lookup number with
    | some name => String.ofList (name.toList.drop 3)
    | none =>
      if number = 34 then "RTMIN"
      else if number = 64 then "RTMAX"
      else if number < 50 then "RTMIN+" ++ toString (number - 34)
      else "RTMAX-" ++ toString (64 - number)

def allSignals : List Nat := (List.range 65).filter fun number => number != 0 && number != 32 && number != 33

def signalOf? (word : String) : Option Nat :=
  match number? word with
  | some number => if allSignals.contains number then some number else none
  | none =>
    let name := word.toUpper
    let name := if "SIG".toList.isPrefixOf name.toList then String.ofList (name.toList.drop 3) else name
    if name == "IO" then some 29 else allSignals.find? fun number => signalLabel number == name

def signalWords (value : String) : List String := (value.splitOn ",").filter (!·.isEmpty)

/-- The plans for signals that options ask for, each with whether it must be
possible. -/
def signalPlans (options : Options) : List (Nat × Plan × Bool) :=
  options.given.flatMap fun (letter, value) =>
    let plan := if letter = '+' then Plan.ignored else .usual
    if letter != '+' && letter != '!' then []
    else if value.isEmpty then allSignals.map fun number => (number, plan, false)
    else (signalWords value).filterMap fun word => (signalOf? word).map fun number => (number, plan, true)

def signalsIn (value : String) : List Nat :=
  if value.isEmpty then allSignals else (signalWords value).filterMap signalOf?

/-- The signals that are to get through no more, and those that are to get through again,
each with whether it is to. The last option that names a signal counts. -/
def passages (options : Options) : List (Nat × Bool) :=
  let asked := options.given.reverse.flatMap fun (letter, value) =>
    if letter = '!' || letter = '~' then (signalsIn value).map fun number => (number, letter = '!') else []
  allSignals.filterMap fun number => (asked.lookup number).map fun passes => (number, passes)

def withPassages (holdings : Holdings) (passages : List (Nat × Bool)) : Holdings :=
  let stopped := (passages.filter fun (number, passes) => !passes && !finalSignals.contains number).map (·.1)
  { holdings with
    blocked := stopped ++ holdings.blocked.filter fun number => (passages.lookup number).isNone }

def planNotes (options : Options) : List String :=
  let plans := (signalPlans options).reverse
  let resets := allSignals.filterMap fun number =>
    (plans.lookup number).map fun (plan, isStrict) =>
      "Reset signal " ++ signalLabel number ++ " (" ++ toString number ++ ") to " ++
        (if plan == .ignored then "IGNORE" else "DEFAULT") ++
        if !isStrict && finalSignals.contains number then " (failure ignored)" else ""
  let masks := (passages options).map fun (number, passes) =>
    "signal " ++ signalLabel number ++ " (" ++ toString number ++ ") mask set to " ++
      if passes then "UNBLOCK" else "BLOCK"
  resets ++ masks

def signalLines (holdings : Holdings) : List String :=
  allSignals.filterMap fun number =>
    let isIgnored := holdings.plan number == .ignored
    let isBlocked := holdings.blocked.contains number
    if !isIgnored && !isBlocked then none
    else
      let name := signalLabel number
      let facts := (if isBlocked then ["BLOCK"] else []) ++ if isIgnored then ["IGNORE"] else []
      some (name ++ String.ofList (List.replicate (10 - name.length) ' ') ++ " (" ++ padLeft 2 (toString number) ++ "): " ++
        String.intercalate "," facts)

/-! ## The program -/

/-- The environment after the assignments in front of a command, and the words of
the command. -/
def assignWords (environment : Environment) : List String → Environment × List String
  | [] => (environment, [])
  | word :: rest =>
    let name := word.toList.takeWhile (· != '=')
    if name.length = word.length then (environment, word :: rest)
    else assignWords (environment.set (String.ofList name) (String.ofList (word.toList.drop (name.length + 1)))) rest

def environmentTable : OptionTable := {
  flags := ['i', '0', 'v', '@'], valued := ['u', 'C', 'S'], optional := ['+', '!', '~'], ordered := true
  long := [("ignore-environment", 'i'), ("null", '0'), ("unset", 'u'), ("chdir", 'C'), ("split-string", 'S'),
    ("debug", 'v'), ("default-signal", '!'), ("ignore-signal", '+'), ("block-signal", '~'), ("list-signal-handling", '@')]
  check := fun letter value =>
    if letter = '+' || letter = '!' || letter = '~' then
      ((signalWords value).find? fun word => (signalOf? word).isNone).map fun word =>
        { message := shown word ++ ": invalid signal" }
    else none }

/-- Reads the options of `env`, and of the texts that it is to split. The notes are
what it tells about splitting them. -/
def readEnvironmentOptions (environment : Environment) (notes : List String) :
    Nat → Options → List String → Except String (Options × Option OptionError × List String)
  | 0, options, _ => .ok (options, none, notes)
  | bound + 1, options, arguments =>
    let whole := readArguments environmentTable options arguments
    let splits := (List.range (arguments.length + 1)).find? fun count =>
      let (read, fault) := readArguments environmentTable options (arguments.take count)
      read.has 'S' && fault.isNone
    match splits with
    | none => .ok (whole.1, whole.2, notes)
    | some count =>
      let (read, _) := readArguments environmentTable options (arguments.take count)
      let value := (read.value? 'S').getD ""
      let isRefused := (firstRefusal environmentTable read none).isSome
      match (if isRefused then .ok {} else readSplit environment none (value.length + 1) {} value.toList) with
      | .error text => .error text
      | .ok text =>
        if isRefused then .ok (read, none, notes)
        else
        let words := text.toList
        let split := words.zipIdx.map fun (word, index) =>
          (if index = 0 then " into:    " else "     &    ") ++ shown word
        let told := text.notes ++ if words.isEmpty then [] else ("split -S:  " ++ shown value) :: split
        readEnvironmentOptions environment (if read.has 'v' then notes ++ told else notes) bound
          { read with given := read.given.filter (·.1 != 'S') } (words ++ arguments.drop count)

def runInEnvironment (start : Starter) : Utility := fun invocation =>
  let cancel (text : String) : Program := fail invocation text 125
  let go (options : Options) (notes : List String) : Program :=
    let tell (lines : List String) (next : Unit → Program) : Program :=
      if options.has 'v' && !lines.isEmpty then Program.complain (String.join (lines.map (· ++ "\n"))) next else next ()
    let (clear, words) :=
      match options.operands with
      | "-" :: rest => (true, rest)
      | words => (options.has 'i', words)
    let names := (options.given.filter (·.1 == 'u')).map (·.2)
    let isBad (name : String) : Bool := name.isEmpty || name.toList.contains '='
    let cleared := if clear then ["cleaning environ"] else
      (names.take ((names.takeWhile (!isBad ·)).length + 1)).map ("unset:    " ++ ·)
    tell (notes ++ cleared) fun _ =>
      match (if clear then none else names.find? isBad) with
      | some name => cancel ("cannot unset " ++ shown name ++ ": Invalid argument")
      | none =>
        let kept := if clear then .empty else names.foldl Environment.erase invocation.environment
        let (environment, command) := assignWords kept words
        tell ((words.take (words.length - command.length)).map ("setenv:   " ++ ·)) fun _ =>
          match command with
          | [] =>
            if options.has 'C' then refuse invocation "must specify command with --chdir (-C)" 125
            else printEnvironment { invocation with environment } (if options.has '0' then "\x00" else "\n") 125
          | name :: arguments =>
            let plans := signalPlans options
            let launch (viewer : Viewer) (files : FileSystem) : Program :=
              let call : Call := { invocation with name, arguments, environment, viewer, scripted := true }
              match start call files with
              | .ok program => program.become
              | .error failure =>
                warn invocation (shown name ++ ": " ++ reason failure) fun _ =>
                  let code := launchCode failure
                  if code = 127 && name.toList.any isBlankChar then
                    fail invocation "use -[v]S to pass options in shebang lines" code
                  else .exitWith code
            let enter (_ : Unit) : Program :=
              .look fun files =>
                let entered : Except Failure Viewer :=
                  match options.value? 'C' with
                  | none => .ok invocation.viewer
                  | some path =>
                    match files.stat invocation.viewer path with
                    | .error failure => .error failure
                    | .ok (location, node) =>
                      if !node.isDirectory then .error (.os .notDirectory)
                      else if !(files.attributesOf node).admits invocation.viewer.user then
                        .error (.os .accessDenied)
                      else .ok { invocation.viewer with directory := location }
                tell ((options.value? 'C').toList.map fun path => "chdir:    " ++ shownPath path) fun _ =>
                  match entered with
                  | .error failure =>
                    cancel ("cannot change directory to " ++ shownPath ((options.value? 'C').getD "") ++ ": " ++ reason failure)
                  | .ok viewer =>
                    tell (("executing: " ++ name) :: command.zipIdx.map fun (word, index) =>
                      "   arg[" ++ toString index ++ "]= " ++ shown word) fun _ => launch viewer files
            let listed (_ : Unit) : Program :=
              if !options.has '@' then enter ()
              else
                .adjust id fun holdings =>
                  match signalLines holdings with
                  | [] => enter ()
                  | lines => Program.complain (String.join (lines.map (· ++ "\n"))) enter
            if options.has '0' then refuse invocation "cannot specify --null (-0) with command" 125
            else
              match plans.find? fun (number, _, isStrict) => isStrict && finalSignals.contains number with
              | some (number, _) =>
                cancel ("failed to set signal action for signal " ++ toString number ++ ": " ++ Errno.invalid.text)
              | none =>
                let passages := passages options
                if plans.isEmpty && passages.isEmpty then listed ()
                else
                  let possible := plans.filter fun (number, _) => !finalSignals.contains number
                  Program.hold (fun holdings => possible.foldl (fun holdings (number, plan, _) => holdings.setPlan number plan)
                    (withPassages holdings passages)) fun _ => tell (planNotes options) listed
  let bound := invocation.arguments.length + invocation.arguments.foldl (· + ·.length) 0 + 1
  match readEnvironmentOptions invocation.environment [] bound {} invocation.arguments with
  | .error text => cancel text
  | .ok (options, fault, notes) =>
    let tell (next : Unit → Program) : Program :=
      if notes.isEmpty then next () else Program.complain (String.join (notes.map (· ++ "\n"))) next
    if asksAbout environmentTable options then tell fun _ => .exitWith 0
    else
      match firstRefusal environmentTable options fault, fault with
      | some refusal, some (.unknownLetter letter) =>
        let isBlank := isBlankChar letter && refusal.message == (OptionError.unknownLetter letter).message
        let also := if isBlank then ["use -[v]S to pass options in shebang lines"] else []
        tell fun _ => refuseFor invocation { refusal with also } 125
      | some refusal, _ => tell fun _ => refuseFor invocation refusal 125
      | none, _ => go options notes

end PipeShell.Utility
