import PipeShell.Utility.Batches.Words
import PipeShell.Utility.Launching

/-! # Words of the input as arguments

A program that starts others with the words of its input as further arguments, so
many at a time, or once for every line. -/

set_option autoImplicit false

namespace PipeShell.Utility

open PipeShell.System

def readDelimiter (word : String) : Except String UInt8 :=
  let faulty (why : String) : Except String UInt8 :=
    .error ("Invalid escape sequence " ++ word ++ " in input delimiter specification" ++ why)
  let coded (base : Nat) (limit : String) (digits : Bytes) : Except String UInt8 :=
    let (count, value) := readDigits base digits.length digits
    if 255 < value then faulty ("; character values must not exceed " ++ limit ++ ".")
    else if count < digits.length then
      faulty ("; trailing characters " ++ rawText (digits.drop count) ++ " not recognised.")
    else .ok value.toUInt8
  match rawBytes word with
  | [b] => .ok b
  | 92 :: letter :: rest =>
    match controlByte? ⟨true, true, true, false, false, true, false⟩ letter with
    | some b => .ok b
    | none =>
      if letter = ascii 'x' then coded 16 "ff" rest
      else if (Char.ofNat letter.toNat).isDigit then coded 8 "377" (letter :: rest)
      else faulty "."
  | _ =>
    .error ("Invalid input delimiter specification " ++ word ++
      ": the delimiter must be either a single character or an escape sequence starting with \\.")

/-! ## Calls -/

inductive BatchRule where
  | full
  | words (count : Nat)
  | lines (count : Nat)
  /-- One line in place of a mark. -/
  | replaced (mark : String)
  deriving DecidableEq, Repr

structure BatchRequest where
  rule : BatchRule := .full
  delimiter : Option UInt8 := none
  /-- The word behind which nothing is read. -/
  stop : Option String := none
  /-- The number of characters in one call. -/
  room : Option Int := none
  /-- Calls that would be too large are not made smaller. -/
  exact : Bool := false
  needsWords : Bool := false
  told : Bool := false
  asked : Bool := false
  /-- The terminal is given to the calls. -/
  terminal : Bool := false
  file : Option String := none
  slot : Option String := none
  limits : Bool := false
  warnings : List String := []

def usualRoom : Nat := 131072

def environmentSize (environment : Environment) : Nat :=
  environment.bindings.foldl (fun size (name, value) => size + (rawBytes name).length + (rawBytes value).length + 2) 0

def mostRoom (environment : Environment) : Nat := 2097152 - 2048 - environmentSize environment

structure Batches where
  /-- The complete calls, the last one first. -/
  done : List (List String) := []
  /-- The words of the next call, the last one first. -/
  next : List String := []
  size : Nat := 0
  lines : Nat := 0
  failure : Option String := none

def noRoomText : String := "cannot fit single argument within argument list size limit"

/-- Words behind the others: a call is complete when it has as many as it takes or
there is no room for more. A call of so many words or lines is not made smaller where
`exact` says so. -/
def Batches.add (rule : BatchRule) (exact : Bool) (initial room : Nat) (batches : Batches) (word : InputWord) :
    Batches :=
  if batches.failure.isSome then batches
  else
    let length := word.bytes.length + 1
    let text := rawText word.visible
    let flush (batches : Batches) : Batches :=
      { batches with done := batches.next.reverse :: batches.done, next := [], size := 0, lines := 0 }
    let isCounted : Bool := match rule with
      | .words _ => true
      | .lines _ => true
      | _ => false
    if room < initial + length then
      let pending := if batches.next.isEmpty || exact then batches else flush batches
      { pending with
        failure := some (if word.bytes.isEmpty then noRoomText else "argument line too long") }
    else
      let overflows := room < initial + batches.size + length
      if overflows && exact && isCounted then { batches with failure := some "argument list too long" }
      else
        let batches := if overflows then flush batches else batches
        let batches := { batches with
          next := text :: batches.next, size := batches.size + length,
          lines := batches.lines + if word.endsLine then 1 else 0 }
        let isComplete : Bool := match rule with
          | .words count => count ≤ batches.next.length
          | .lines count => count ≤ batches.lines
          | _ => false
        if isComplete then flush batches else batches

def Batches.ofWords (request : BatchRequest) (initial room : Nat) (fault : Option String) (words : List InputWord) :
    List (List String) × Option String :=
  let exact : Bool := match request.rule with
    | .lines _ => true
    | _ => request.exact
  let batches := words.foldl (Batches.add request.rule exact initial room) {}
  match batches.failure with
  | some text => (batches.done.reverse, some text)
  | none =>
    let isLeft := !batches.next.isEmpty && !(fault.isSome && exact)
    let calls := (if isLeft then batches.next.reverse :: batches.done else batches.done).reverse
    (if calls.isEmpty && fault.isNone && !request.needsWords then [[]] else calls, fault)

def replacing (part value text : String) : String :=
  if part.isEmpty then text else String.intercalate value (text.splitOn part)

/-- The further words of a call in which a line stands in place of a mark, if there is room for
them behind the `size` bytes of the call so far; or what is wrong. -/
def replacedWords (mark : String) (line : InputWord) (room : Nat) : List String → Nat → Except String (List String)
  | [], _ => .ok []
  | word :: rest, size => do
    let whole := rawBytes (replacing mark (rawText line.bytes) word)
    if !word.isEmpty && room ≤ whole.length + 1 then .error "command too long"
    else if room < size + whole.length + 1 then .error "argument list too long"
    else
      let others ← replacedWords mark line room rest (size + whole.length + 1)
      .ok (rawText (whole.takeWhile (· != 0)) :: others)

/-- A call for each line, in which it stands in place of a mark; and what went wrong behind the
last of them. `done` holds the calls so far, the last one first. -/
def replacedCalls (mark : String) (room : Nat) (name : String) (words : List String) (done : List (List String)) :
    List InputWord → List (List String) × Option String
  | [] => (done.reverse, none)
  | line :: rest =>
    let start := (rawBytes name).length + 1
    if !line.bytes.isEmpty && room < line.bytes.length + 1 + (if done.isEmpty then 0 else start) then
      (done.reverse, some "argument line too long")
    else if room < start then (done.reverse, some noRoomText)
    else
      match replacedWords mark line room words start with
      | .error text => (done.reverse, some text)
      | .ok filled => replacedCalls mark room name words (filled :: done) rest

/-! ## Options -/

def batchTable : OptionTable := {
  flags := ['0', 'r', 't', 'x', 'p', 'o', '!'], valued := ['n', 'I', 'L', 'd', 'P', 's', 'a', 'E', '+'],
  optional := ['e', 'i', 'l', '='], ordered := true
  long := [("null", '0'), ("arg-file", 'a'), ("delimiter", 'd'), ("eof", 'e'), ("replace", 'i'), ("max-lines", 'l'),
    ("max-args", 'n'), ("open-tty", 'o'), ("interactive", 'p'), ("no-run-if-empty", 'r'), ("max-chars", 's'),
    ("verbose", 't'), ("show-limits", '!'), ("exit", 'x'), ("max-procs", 'P'), ("process-slot-var", '+')] }

def batchNumber (letter : Char) (least : Int) (word : String) : Except Refusal Int :=
  let digits := String.ofList (word.toList.dropWhile isBlankChar)
  match integer? digits with
  | none => .error { message := "invalid number \"" ++ word ++ "\" for -" ++ String.singleton letter ++ " option" }
  | some value =>
    if value < least then
      .error { message := "value " ++ word ++ " for -" ++ String.singleton letter ++ " option should be >= " ++ toString least }
    else .ok value

def BatchRequest.orRefuse (request : BatchRequest) (answer : Except Refusal BatchRequest) : Except Refusal BatchRequest :=
  match answer with
  | .ok request => .ok request
  | .error refusal =>
    match request.warnings ++ [refusal.message] with
    | [] => .error refusal
    | message :: also => .error { refusal with message, also }

def BatchRequest.follow (request : BatchRequest) (option : String) (rule : BatchRule) : BatchRequest :=
  let warning (former : String) : List String :=
    ["warning: options " ++ former ++ " and " ++ option ++ " are mutually exclusive, ignoring previous " ++ former ++
      " value"]
  match request.rule, rule with
  | .words _, .lines _ => { request with rule, warnings := request.warnings ++ warning "--max-args" }
  | .words _, .replaced _ => { request with rule, warnings := request.warnings ++ warning "--max-args" }
  | .lines _, .words _ => { request with rule, warnings := request.warnings ++ warning "--max-lines" }
  | .lines _, .replaced _ => { request with rule, warnings := request.warnings ++ warning "--max-lines" }
  | .replaced _, .words 1 => request
  | .replaced _, .words _ => { request with rule, warnings := request.warnings ++ warning "--replace" }
  | .replaced _, .lines _ => { request with rule, warnings := request.warnings ++ warning "--replace" }
  | _, rule => { request with rule }

def adoptBatchOption (environment : Environment) (request : BatchRequest) (letter : Char) (value : String) :
    Except Refusal BatchRequest :=
  request.orRefuse <| match letter with
  | '0' => .ok { request with delimiter := some 0 }
  | 'a' => .ok { request with file := some value }
  | 'd' =>
    match readDelimiter value with
    | .ok b => .ok { request with delimiter := some b }
    | .error text => .error { message := text, hinted := false }
  | 'E' | 'e' => .ok { request with stop := if value.isEmpty then none else some value }
  | 'I' => .ok (request.follow "--replace/-I/-i" (.replaced value))
  | 'i' => .ok (request.follow "--replace/-I/-i" (.replaced (if value.isEmpty then "\x7b\x7d" else value)))
  | 'L' => (batchNumber 'L' 1 value).map fun count => request.follow "-L" (.lines count.toNat)
  | 'l' =>
    (batchNumber 'l' 1 (if value.isEmpty then "1" else value)).map fun count =>
      request.follow "--max-lines/-l" (.lines count.toNat)
  | 'n' => (batchNumber 'n' 1 value).map fun count => request.follow "--max-args/-n" (.words count.toNat)
  | 's' =>
    match batchNumber 's' 1 value with
    | .ok room =>
      let most : Int := mostRoom environment
      if most < room then
        .ok { request with
          room := some most
          warnings := request.warnings ++ ["value " ++ value ++ " for -s option should be <= " ++ toString most] }
      else .ok { request with room := some room }
    | .error refusal =>
      if (integer? value).isNone then .error refusal
      else .ok { request with room := some 1, warnings := request.warnings ++ [refusal.message] }
  | 'P' => (batchNumber 'P' 0 value).map fun _ => request
  | 'p' => .ok { request with asked := true, told := true }
  | 'o' => .ok { request with terminal := true }
  | 'r' => .ok { request with needsWords := true }
  | 't' => .ok { request with told := true }
  | 'x' => .ok { request with exact := true }
  | '!' => .ok { request with limits := true }
  | '+' =>
    if value.toList.contains '=' then
      .error {
        message := "option --process-slot-var may not be set to a value which includes \x60='"
        hinted := false }
    else .ok { request with slot := some value }
  | _ => .ok request

def limitLines (environment : Environment) (room : Nat) : List String :=
  let size := environmentSize environment
  let most := mostRoom environment
  ["Your environment variables take up " ++ toString size ++ " bytes",
    "POSIX upper limit on argument length (this system): " ++ toString most,
    "POSIX smallest allowable upper limit on argument length (all systems): 4096",
    "Maximum length of command we could actually use: " ++ toString (most - size),
    "Size of command buffer we are actually using: " ++ toString room,
    "Maximum parallelism (--max-procs must be no greater): 2147483647"]

/-! ## The program -/

/-- Ends behind the last call with the code that the calls lead to. What was wrong with the
words is told then. -/
def closeCalls (invocation : Invocation) (failure : Option String) (code : UInt8) : Program :=
  match failure with
  | none => .exitWith code
  | some text => fail invocation text (if code = 0 then 1 else code)

/-- Starts programs one after the other. Unless the words come from a file, there is
nothing for them to read. -/
def runCalls (start : Starter) (invocation : Invocation) (request : BatchRequest) (next : UInt8 → Program) (code : UInt8) :
    List (String × List String) → Program
  | [] => next code
  | (name, arguments) :: rest =>
    let noTerminal : String := "failed to open /dev/tty for reading: No such device or address"
    let line := String.intercalate " " ((name :: arguments).map (unquotedOr []))
    let tell (next : Unit → Program) : Program :=
      if request.asked then Program.complain line fun _ => fail invocation noTerminal
      else if request.told then Program.complain (line ++ "\n") next
      else next ()
    let environment := request.slot.elim invocation.environment fun name => invocation.environment.set name "0"
    let program (files : FileSystem) (pid : Nat) : Except Failure Program :=
      start { invocation with name, arguments, environment, pid, parent := invocation.pid, scripted := true } files
    let refuse (failure : Failure) : Program :=
      fail invocation (name ++ ": " ++ reason failure) (launchCode failure)
    tell fun _ =>
      .look fun files =>
        match program files invocation.pid, request.terminal with
        | .error failure, false => refuse failure
        | _, _ =>
          let child (pid : Nat) : Program :=
            if request.terminal then
              warn invocation "'/dev/tty': No such device or address" fun _ =>
                warn invocation "xargs.c:1605: wait_for_proc_all: Assertion `getpid () == parent' failed." fun _ =>
                  .exit (.signal 6)
            else
              match program files pid with
              | .ok program =>
                if request.file.isSome then program.become
                else .attach Program.inputDescriptor .null fun _ => program.become
              | .error failure => refuse failure
          .fork id child fun pid =>
            Program.awaitChild pid (fun status =>
              match status with
              | .code 255 => fail invocation (name ++ ": exited with status 255; aborting") 124
              | .code value => runCalls start invocation request next (if value = 0 then code else 123) rest
              | .signal number => fail invocation (name ++ ": terminated by signal " ++ toString number) 125)
              Program.lifetime

def runOnWords (start : Starter) : Utility := fun invocation =>
  withRequest batchTable invocation 1 ({} : BatchRequest) (adoptBatchOption invocation.environment) fun request operands =>
    let command := if operands.isEmpty then ["echo"] else operands
    let name := command.headD ""
    let initial := command.foldl (fun size word => size + (rawBytes word).length + 1) 0
    let room := (request.room.getD usualRoom).toNat
    let stopNotice := "warning: the -E option has no effect if -0 or -d is used.\n"
    let warnings := request.warnings ++ if request.stop.isSome && request.delimiter.isSome then [stopNotice] else []
    let notices := warnings.map (fun text => invocation.name ++ ": " ++ text ++ "\n") ++
      if request.limits then (limitLines invocation.environment room).map (· ++ "\n") else []
    let run (data : Bytes) : Program :=
      let replaced : Option String := match request.rule with
        | .replaced mark => some mark
        | _ => none
      let (words, fault) :=
        match request.delimiter with
        | some separator => (separatedWords separator data, none)
        | none => inputWords { splits := replaced.isNone, stop := request.stop.map rawBytes } data
      let (calls, failure) :=
        match replaced with
        | some mark =>
          let (calls, failure) := replacedCalls mark room name command.tail [] words
          (calls, failure.or fault)
        | none =>
          let (batches, failure) := Batches.ofWords request initial room fault words
          (batches.map (command.tail ++ ·), failure)
      let hasZero := request.delimiter.isNone && data.contains 0
      let go (_ : Unit) : Program :=
        runCalls start invocation request (closeCalls invocation failure) 0 (calls.map fun words => (name, words))
      if hasZero then
        warn invocation ("WARNING: a NUL character occurred in the input.  It cannot be passed through in the argument" ++
          " list.  Did you mean to use the --null option?") go
      else go ()
    let begin (_ : Unit) : Program :=
      let isLine : Bool := request.rule matches .replaced _
      if !isLine && room < initial then fail invocation noRoomText
      else
        match request.file with
        | none => Program.readAll Program.inputDescriptor fun data _ => run data
        | some path =>
          slurp invocation path fun answer =>
            match answer with
            | .ok data => run data
            | .error text => fail invocation ("Cannot open input file " ++ shownPath path ++ ": " ++ text)
    if notices.isEmpty then begin () else Program.complain (String.join notices) begin

end PipeShell.Utility
