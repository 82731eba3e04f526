import PipeShell.Text.Real
import PipeShell.Utility.Basic
import PipeShell.Utility.Escape

/-! # Utilities that print

Programs that write something without reading anything. -/

set_option autoImplicit false

namespace PipeShell.Utility

open PipeShell.System

/-- The options of `echo`: whether escapes are read and whether a newline
follows, and the words to print. Only words all of whose letters are options
count as options. -/
def echoOptions (escapes newline : Bool) : List String → Bool × Bool × List String
  | [] => (escapes, newline, [])
  | word :: rest =>
    match word.toList with
    | '-' :: letter :: letters =>
      if (letter :: letters).all fun c => c = 'e' || c = 'E' || c = 'n' then
        let (escapes, newline) := (letter :: letters).foldl (fun (escapes, newline) c =>
          if c = 'n' then (escapes, false) else (c = 'e', newline)) (escapes, newline)
        echoOptions escapes newline rest
      else (escapes, newline, word :: rest)
    | _ => (escapes, newline, word :: rest)

def echoDialect : EscapeDialect := ⟨true, true, true, true, false, true, false⟩

def echoBytes (dialect : EscapeDialect) (escapes newline : Bool) (words : List String) : Bytes :=
  let text := rawBytes (String.intercalate " " words)
  let ending : Bytes := if newline then [10] else []
  if escapes then
    let printed := unescape dialect text
    if printed.stopped then printed.bytes else printed.bytes ++ ending
  else text ++ ending

def echo : Utility := fun invocation =>
  let (escapes, newline, words) := echoOptions false true invocation.arguments
  emitAll invocation (echoBytes echoDialect escapes newline words)

def succeed : Utility := fun _ => .exitWith 0

def flop : Utility := fun _ => .exitWith 1

def repeatBlock (invocation : Invocation) (block : Bytes) : Nat → Program
  | 0 => .exitWith 0
  | bound + 1 => emit invocation block fun _ => repeatBlock invocation block bound

def yes : Utility := fun invocation =>
  let words :=
    match invocation.arguments with
    | "--" :: rest => rest
    | arguments => arguments
  let line := rawBytes (String.intercalate " " (if words.isEmpty then ["y"] else words)) ++ [10]
  let copies := 8192 / line.length
  repeatBlock invocation (List.replicate (if copies = 0 then 1 else copies) line).flatten Program.lifetime

def printDirectory : Utility := fun invocation =>
  withOptions { flags := ['L', 'P'], long := [("logical", 'L'), ("physical", 'P')] } invocation 1 fun options =>
    let entered := (options.given.getLast?.map (·.1)) == some 'L'
    let print (path : String) : Program := emitAll invocation (rawBytes (path ++ "\n"))
    let go (_ : Unit) : Program :=
      match invocation.environment.get? "PWD" with
      | some path =>
        let idle := (Path.pieces path).any fun name => name == "." || name == ".."
        if entered && Path.isAbsolute path && !idle then
          .look fun files =>
            if (files.canonical invocation.viewer path).toOption == some invocation.viewer.directory then print path
            else print invocation.here
        else print invocation.here
      | none => print invocation.here
    if options.operands.isEmpty then go () else warn invocation "ignoring non-option arguments" go

def secondsIn? : List Char → Option Nat
  | [] => some 1
  | ['s'] => some 1
  | ['m'] => some 60
  | ['h'] => some 3600
  | ['d'] => some 86400
  | _ => none

def endlessNanoseconds : Nat := 9223372036854775807000000000

def interval? (word : String) : Option Nat := do
  let (number, unit) ← Text.Real.take word.toList
  let seconds ← secondsIn? unit
  match number.magnitude with
  | .finite num den =>
    if number.negative && num != 0 then none
    else some (min endlessNanoseconds ((num * seconds * 1000000000 + den - 1) / den))
  | .infinite => if number.negative then none else some endlessNanoseconds
  | .nan => none

def sleep : Utility := fun invocation =>
  withOptions {} invocation 1 fun options =>
    if options.operands.isEmpty then refuse invocation "missing operand"
    else
      let rec go (failed : Bool) (duration : Nat) : List String → Program
        | [] =>
          if failed then
            Program.complain ("Try '" ++ invocation.name ++ " --help' for more information.\n") fun _ => .exitWith 1
          else .sleep duration fun _ => .exitWith 0
        | word :: rest =>
          match interval? word with
          | some nanoseconds => go failed (duration + nanoseconds) rest
          | none => warn invocation ("invalid time interval " ++ shown word) fun _ => go true duration rest
      go false 0 options.operands

/-- The last name of a path without an ending. A path of nothing but slashes is a
slash. -/
def nameWithout (ending path : String) : String :=
  let name := Path.basename path
  if name.toList.all (· == '/') && !name.isEmpty then "/"
  else
    let cut := name.length - ending.length
    if name != ending && !ending.isEmpty && name.toList.drop cut == ending.toList then String.ofList (name.toList.take cut)
    else name

def printBasename : Utility := fun invocation =>
  let table : OptionTable := {
    flags := ['a', 'z'], valued := ['s'], ordered := true, long := [("multiple", 'a'), ("suffix", 's'), ("zero", 'z')] }
  withOptions table invocation 1 fun options =>
    let print (names : List String) : Program :=
      emitAll invocation (rawBytes (String.join (names.map (· ++ if options.has 'z' then "\x00" else "\n"))))
    let several := options.has 'a' || options.has 's'
    match options.operands with
    | [] => refuse invocation "missing operand"
    | path :: rest =>
      if several then print ((path :: rest).map (nameWithout ((options.value? 's').getD "")))
      else
        match rest with
        | [] => print [nameWithout "" path]
        | [ending] => print [nameWithout ending path]
        | _ :: extra :: _ => refuse invocation ("extra operand " ++ shown extra)

def parentText (path : String) : String :=
  let trimmed := (path.toList.reverse.dropWhile (· == '/')).reverse
  let cut := (trimmed.reverse.dropWhile (· != '/')).dropWhile (· == '/')
  if trimmed.isEmpty then (if path.isEmpty then "." else "/")
  else if !trimmed.contains '/' then "."
  else if cut.isEmpty then "/"
  else String.ofList cut.reverse

def printDirname : Utility := fun invocation =>
  withOptions { flags := ['z'], long := [("zero", 'z')] } invocation 1 fun options =>
    if options.operands.isEmpty then refuse invocation "missing operand"
    else
      emitAll invocation (rawBytes (String.join (options.operands.map fun path =>
        parentText path ++ if options.has 'z' then "\x00" else "\n")))

def printUser : Utility := fun invocation =>
  withOptions {} invocation 1 fun options =>
    match options.operands with
    | [] => emitAll invocation (rawBytes (if invocation.viewer.user.number = 0 then "root\n" else "nobody\n"))
    | extra :: _ => refuse invocation ("extra operand " ++ shown extra)

def printEnvironment (invocation : Invocation) (ending : String) (failure : UInt8) : Program :=
  emitAll invocation (rawBytes (String.join (invocation.environment.bindings.map fun (name, value) =>
    name ++ "=" ++ value ++ ending))) 0 failure

def printVariables : Utility := fun invocation =>
  let table : OptionTable := {
    flags := ['0', 'i'], valued := ['u'], long := [("null", '0')], ordered := true
    check := fun letter _ => if letter = 'i' || letter = 'u' then some { message := "" } else none }
  withOptions table invocation 2 fun options =>
    let ending := if options.has '0' then "\x00" else "\n"
    match options.operands with
    | [] => printEnvironment invocation ending 2
    | names =>
      let values := names.filterMap fun name =>
        if name.toList.contains '=' then none else invocation.environment.get? name
      emitAll invocation (rawBytes (String.join (values.map (· ++ ending)))) (if values.length = names.length then 0 else 1) 2

end PipeShell.Utility
