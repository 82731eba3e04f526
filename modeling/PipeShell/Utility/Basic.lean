import PipeShell.Process.Invocation
import PipeShell.Utility.Quantity

/-! # Utilities

The programs that come with the system. Each is a function from the way it is
called to its behaviour. This module holds what they have in common: how they
write, how they fail, how they read their options, and how they read the files
they are given. -/

set_option autoImplicit false

namespace PipeShell

open PipeShell.System

abbrev Utility := Invocation → Program

namespace Utility

def isSpaceByte (b : UInt8) : Bool := b = 32 || (9 ≤ b && b ≤ 13)

def warn (invocation : Invocation) (text : String) (next : Unit → Program) : Program :=
  Program.complain (invocation.name ++ ": " ++ text ++ "\n") next

def fail (invocation : Invocation) (text : String) (code : UInt8 := 1) : Program :=
  warn invocation text fun _ => .exitWith code

def refuse (invocation : Invocation) (text : String) (code : UInt8 := 1) : Program :=
  warn invocation text fun _ =>
    Program.complain ("Try '" ++ invocation.name ++ " --help' for more information.\n") fun _ => .exitWith code

def heldBack : Nat := 4096

/-- Writes bytes to the output and goes on. If that fails, the program may do the rest of
its work, but no more is written, and in the end it tells so and fails with a code. The
reason is forgotten if output had to be written before the end, unless there is no output
at all. -/
def emit (invocation : Invocation) (data : Bytes) (next : Unit → Program) (code : UInt8 := 1) (eager : Bool := false) :
    Program :=
  if data.isEmpty then next ()
  else .write Program.outputDescriptor data fun answer =>
    match answer with
    | none => next ()
    | some e =>
      let finish (early : Bool) : Program :=
        fail invocation (if early && e != .badDescriptor then "write error" else "write error: " ++ e.text) code
      if heldBack ≤ data.length then finish false
      else (next ()).withoutOutput finish eager (heldBack - data.length)

inductive Outlet where
  | descriptor (number : Nat)
  /-- A file that the program has opened. -/
  | file (file : OpenFile)
  deriving DecidableEq, Repr

namespace Outlet

/-- The outlet for a file that was opened. What a descriptor leads to is reached through
the descriptor. -/
def ofOpened (file : OpenFile) : Outlet :=
  match file.node with
  | .pipe number => .descriptor number
  | _ => .file file

def write (outlet : Outlet) (data : Bytes) (next : Outlet → Option Errno → Program) : Program :=
  match outlet with
  | .descriptor number => Program.write number data fun answer => next outlet answer
  | .file opened =>
    .files (fun files =>
        match files.write opened data with
        | .ok (files, _) => files
        | .error _ => files) fun files =>
      match files.write opened data with
      | .ok (_, moved) => next (.file moved) none
      | .error e => next outlet (some e)

end Outlet

def emitAll (invocation : Invocation) (data : Bytes) (code : UInt8 := 0) (failure : UInt8 := 1) : Program :=
  emit invocation data (fun _ => .exitWith code) failure

def lineMark (options : Options) : UInt8 := if options.has 'z' then 0 else 10

def refuseFor (invocation : Invocation) (refusal : Refusal) (code : UInt8 := 1) : Program :=
  let code := refusal.code.getD code
  let tell (next : Unit → Program) : Program :=
    if refusal.message.isEmpty then next () else warn invocation refusal.message next
  tell fun _ =>
    let lines := refusal.also.map (fun text => invocation.name ++ ": " ++ text) ++ refusal.details ++
      if refusal.hinted then ["Try '" ++ invocation.name ++ " --help' for more information."] else []
    if lines.isEmpty then .exitWith code
    else Program.complain (String.join (lines.map (· ++ "\n"))) fun _ => .exitWith code

/-- Goes on with the options that were read, or refuses the call; `details` tells more
about an argument that could not be read. -/
def withReading (table : OptionTable) (details : List String) (invocation : Invocation) (code : UInt8)
    (reading : Options × Option OptionError) (next : Options → Program) : Program :=
  let (options, fault) := reading
  if asksAbout table options then .exitWith 0
  else
    match firstRefusal table options none, fault with
    | some refusal, _ => refuseFor invocation refusal code
    | none, some e => refuseFor invocation { message := e.message, details } code
    | none, none => next options

/-- Reads the options of a call behind some that are already known and goes on with
them all, or refuses the call. -/
def withOptionsAfter (table : OptionTable) (given : List (Char × String)) (invocation : Invocation) (code : UInt8)
    (next : Options → Program) : Program :=
  withReading table [] invocation code (readArguments table { given } invocation.arguments) next

def withOptions (table : OptionTable) (invocation : Invocation) (code : UInt8) (next : Options → Program) : Program :=
  withOptionsAfter table [] invocation code next

/-- Reads the options of a call one after the other into what they ask for, and goes on
with that and the operands, or refuses the call. -/
def withRequest {σ : Type} (table : OptionTable) (invocation : Invocation) (code : UInt8) (start : σ)
    (adopt : σ → Char → String → Except Refusal σ) (next : σ → List String → Program) : Program :=
  let (options, fault) := readArguments table {} invocation.arguments
  let rec adoptAll (request : σ) : List (Char × String) → Program
    | [] =>
      match fault with
      | some e => refuse invocation e.message code
      | none => next request options.operands
    | (letter, value) :: rest =>
      if letter = helpLetter || letter = versionLetter then .exitWith 0
      else
        match adopt request letter value with
        | .ok request => adoptAll request rest
        | .error refusal => refuseFor invocation refusal code
  adoptAll start options.given

def reason (failure : Failure) : String :=
  match failure with
  | .os errno => errno.text
  | failure => failure.message

inductive Source where
  | descriptor (number : Nat)
  /-- A file that the program has opened. -/
  | opened (file : OpenFile)
  deriving DecidableEq, Repr

def Source.read (source : Source) (limit : Nat) (next : Source → Except Errno Bytes → Program) : Program :=
  match source with
  | .descriptor number => .read number limit fun answer => next source answer
  | .opened file =>
    .look fun files =>
      match files.read file limit with
      | .error e => next source (.error e)
      | .ok (data, file) => next (.opened file) (.ok data)

def Source.readBlocks {σ : Type} (state : σ) (step : σ → Bytes → (σ → Program) → Program)
    (finish : σ → Option Errno → Program) : Nat → Source → Program
  | 0, _ => finish state none
  | bound + 1, source =>
    source.read Program.blockSize fun source answer =>
      match answer with
      | .error e => finish state (some e)
      | .ok data =>
        if data.isEmpty then finish state none
        else step state data fun state => readBlocks state step finish bound source

def Source.readRest (source : Source) (next : Bytes → Option Errno → Program) : Program :=
  source.readBlocks [] (fun pieces data resume => resume (data :: pieces))
    (fun (pieces : List Bytes) failure => next pieces.reverse.flatten failure) Program.lifetime

/-- Gives bytes that were read back to a file that others read too, as far as that
is possible. -/
def Source.giveBack (source : Source) (count : Nat) (next : Unit → Program) : Program :=
  match source with
  | .descriptor number =>
    if count = 0 then next ()
    else
      .inspect number fun found =>
        match found.bind (·.2) with
        | some file => .seek number (file.offset - count) fun _ => next ()
        | none => next ()
  | .opened _ => next ()

/-- The source for a file that was opened. What a descriptor leads to is read through the
descriptor. -/
def Source.ofOpened (file : OpenFile) : Source :=
  match file.node with
  | .pipe number => .descriptor number
  | _ => .opened file

def openOperand (invocation : Invocation) (operand : String) (missing : String → Program)
    (next : Source → Program) : Program :=
  if operand == "-" then next (.descriptor Program.inputDescriptor)
  else
    .look fun files =>
      match files.openRead invocation.viewer operand with
      | .error failure => missing (reason failure)
      | .ok file => next (.ofOpened file)

def readOperand {σ : Type} (invocation : Invocation) (operand : String) (state : σ)
    (step : σ → Bytes → (σ → Program) → Program) (finish : σ → Option Errno → Program)
    (missing : String → Program) : Program :=
  openOperand invocation operand missing (Source.readBlocks state step finish Program.lifetime)

def slurp (invocation : Invocation) (operand : String) (next : Except String Bytes → Program) : Program :=
  readOperand invocation operand [] (fun pieces data resume => resume (data :: pieces))
    (fun (pieces : List Bytes) failure =>
      match failure with
      | none => next (.ok pieces.reverse.flatten)
      | some e => next (.error e.text))
    (fun text => next (.error text))

/-- The content of several files in a row, with the complaints about those that
cannot be read. -/
def slurpAll (invocation : Invocation) (operands : List String) (describe : String → String → String)
    (pieces : List Bytes) (failed : Bool) (next : Bytes → Bool → Program) : Program :=
  match operands with
  | [] => next pieces.reverse.flatten failed
  | operand :: rest =>
    slurp invocation operand fun answer =>
      match answer with
      | .ok data => slurpAll invocation rest describe (data :: pieces) failed next
      | .error text =>
        warn invocation (describe operand text) fun _ =>
          slurpAll invocation rest describe pieces true next

def operandsOrInput (operands : List String) : List String :=
  if operands.isEmpty then ["-"] else operands

/-- The pieces of the bytes that end with a byte, without that byte; an unfinished
last piece counts. -/
def recordsOf (mark : UInt8) (data : Bytes) : List Bytes :=
  let pieces := data.splitOn mark
  match pieces.getLast? with
  | some [] => pieces.dropLast
  | _ => pieces

/-- The lines of the bytes without their newlines; an unfinished last line
counts. -/
def linesOf (data : Bytes) : List Bytes := recordsOf 10 data

def unrecords (mark : UInt8) (pieces : List Bytes) : Bytes := pieces.flatMap (· ++ [mark])

def unlines (lines : List Bytes) : Bytes := unrecords 10 lines

/-- How lines are turned into output one by one: what is carried along is changed
by every line, which comes without its end and with whether it had one. -/
abbrev LineStep (σ : Type) := σ → Bytes → Bool → σ × Bytes

def LineStep.all {σ : Type} (step : LineStep σ) (state : σ) (lines : List Bytes) : σ × Bytes :=
  let (state, pieces) := lines.foldl (fun ((state : σ), (pieces : List Bytes)) line =>
    let (state, piece) := step state line true
    (state, piece :: pieces)) (state, [])
  (state, pieces.reverse.flatten)

/-- Turns the lines of files into output while they are read. The answer to `next`
is the last state, and whether a file could not be read. -/
def eachLine {σ : Type} (invocation : Invocation) (mark : UInt8) (step : LineStep σ)
    (describe : String → String → String) (next : σ → Bool → Program) (state : σ) (failed : Bool) :
    List String → Program
  | [] => next state failed
  | operand :: rest =>
    let proceed (failedNow : Bool) (state : σ) : Program :=
      eachLine invocation mark step describe next state (failed || failedNow) rest
    let stop (state : σ) (text : String) : Program :=
      warn invocation (describe operand text) fun _ => proceed true state
    readOperand invocation operand (state, ([] : List Bytes))
      (fun (state, unfinished) data resume =>
        let pieces := data.splitOn mark
        match pieces with
        | [] => resume (state, unfinished)
        | [piece] => resume (state, piece :: unfinished)
        | first :: others =>
          let (state, output) := step.all state ((first :: unfinished).reverse.flatten :: others.dropLast)
          emit invocation output fun _ => resume (state, [others.getLastD []]))
      (fun (state, unfinished) failure =>
        let tail := unfinished.reverse.flatten
        let (state, output) := if tail.isEmpty then (state, []) else step state tail false
        let finish : Program :=
          match failure with
          | none => proceed false state
          | some e => stop state e.text
        if output.isEmpty then finish else emit invocation output fun _ => finish)
      (stop state)

def bytesBefore : Bytes → Bytes → Bool
  | [], [] => false
  | [], _ => true
  | _, [] => false
  | a :: as, b :: bs => a < b || (a == b && bytesBefore as bs)

def padLeft (width : Nat) (text : String) : String :=
  String.ofList (List.replicate (width - text.length) ' ') ++ text

end Utility

end PipeShell
