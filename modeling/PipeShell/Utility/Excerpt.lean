import PipeShell.Text.Real
import PipeShell.Utility.Basic

/-! # Beginnings and ends of files

Programs that pass on so many lines or bytes from one end of a file, or all but so
many. -/

set_option autoImplicit false

namespace PipeShell.Utility

open PipeShell.System

inductive Extent where
  | lines (count : Nat)
  | bytes (count : Nat)
  deriving DecidableEq, Repr

def firstLines (mark : UInt8) (count : Nat) (data : Bytes) : Bytes × Nat :=
  let complete := (data.splitOn mark).dropLast
  if complete.length < count then (data, complete.length)
  else (unrecords mark (complete.take count), count)

/-- Passes the beginning of a file on. Bytes behind the beginning are left where
they can still be read if the input is a file, and lost otherwise. -/
def copyHead (invocation : Invocation) (mark : UInt8) (done : Unit → Program) (failed : Errno → Program)
    : Nat → Source → Extent → Program
  | 0, _, _ => done ()
  | bound + 1, source, extent =>
    let finished := extent == .lines 0 || extent == .bytes 0
    if finished then done ()
    else
      let limit :=
        match extent with
        | .lines _ => 8192
        | .bytes count => min count 8192
      source.read limit fun source answer =>
        match answer with
        | .error e => failed e
        | .ok data =>
          if data.isEmpty then done ()
          else
            match extent with
            | .lines count =>
              let (kept, taken) := firstLines mark count data
              source.giveBack (data.length - kept.length) fun _ =>
                emit invocation kept fun _ =>
                  copyHead invocation mark done failed bound source (.lines (count - taken))
            | .bytes count =>
              emit invocation data fun _ =>
                copyHead invocation mark done failed bound source (.bytes (count - data.length))

def fileHeader (first : Bool) (operand : String) : Bytes :=
  rawBytes ((if first then "" else "\n") ++ "==> " ++ (if operand == "-" then "standard input" else operand) ++
    " <==\n")

def extentUnits : List Char := ['b', 'k', 'K', 'm', 'M', 'G', 'T', 'P', 'E', 'Z', 'Y', '0']

def extentRule (letter : Char) : QuantityRule :=
  { complaint := if letter = 'n' then "invalid number of lines" else "invalid number of bytes", units := extentUnits }

def readExtent (letter : Char) (value : String) : Extent :=
  let count := ((extentRule letter).value 0 (some value)).toNat
  if letter = 'n' then .lines count else .bytes count

def withoutMinus (word : String) : String :=
  match word.toList with
  | '-' :: rest => String.ofList rest
  | _ => word

/-- The options in the manner of `-5c`: digits, and letters that each stand for an
option. The options are in the order in which they count; a letter that is none
is told. -/
def readOldHead (digits : List Char) (letters : List Char) : Except Char (List (Char × String)) := do
  match letters.find? fun c => !(['c', 'b', 'k', 'm', 'l', 'q', 'v', 'z'].contains c) with
  | some letter => .error letter
  | none =>
    let unit := ((letters.filter fun c => ['c', 'b', 'k', 'm', 'l'].contains c).getLast?).getD 'l'
    let scale := (letters.filter fun c => ['c', 'b', 'k', 'm'].contains c).getLast?
    let factor := (scale.filter (· != 'c')).toList
    return (if unit = 'l' then 'n' else 'c', String.ofList (digits ++ factor)) ::
      (letters.filter fun c => ['q', 'v', 'z'].contains c).map fun c => (c, "")

def digitLetters : List Char := ['0', '1', '2', '3', '4', '5', '6', '7', '8', '9']

def headTable : OptionTable := {
  flags := ['q', 'v', 'z'] ++ digitLetters, valued := ['n', 'c']
  long := [("bytes", 'c'), ("lines", 'n'), ("quiet", 'q'), ("silent", 'q'), ("verbose", 'v'), ("zero-terminated", 'z')]
  check := fun letter value =>
    if letter = 'n' || letter = 'c' then (extentRule letter).refusal? (withoutMinus value)
    else if letter.isDigit then some { message := "invalid trailing option -- " ++ String.singleton letter }
    else none }

def isDuration (word : String) : Bool :=
  match Text.Real.take word.toList with
  | some (real, []) => !real.negative && real.magnitude != .nan
  | _ => false

def followChoices : Choices Bool := [("descriptor", false), ("name", true)]

def tailTable : OptionTable := {
  flags := ['q', 'v', 'z', 'f', 'F', '~'] ++ digitLetters, valued := ['n', 'c', 's', '+', '!'], optional := ['=']
  long := [("bytes", 'c'), ("follow", '='), ("lines", 'n'), ("max-unchanged-stats", '!'), ("pid", '+'), ("quiet", 'q'),
    ("retry", '~'), ("silent", 'q'), ("sleep-interval", 's'), ("verbose", 'v'), ("zero-terminated", 'z')]
  check := fun letter value =>
    match letter with
    | 'n' | 'c' => (extentRule letter).refusal? (withoutMinus value)
    | 's' =>
      if isDuration value then none else some { message := "invalid number of seconds: " ++ shown value, hinted := false }
    | '+' => QuantityRule.refusal? { complaint := "invalid PID", most := 2147483647 } value
    | '!' => QuantityRule.refusal? { complaint := "invalid maximum number of unchanged stats between opens" } value
    | '=' => if value.isEmpty then none else followChoices.refusal? "--follow" value
    | letter =>
      if letter.isDigit then
        some { message := "option used in invalid context -- " ++ String.singleton letter, hinted := false }
      else none }

/-- Goes through the files of `head` or `tail`, each with its header if there
are several. -/
def eachFile (invocation : Invocation) (headers : Bool) (copy : Source → String → (Bool → Program) → Program)
    (first failed : Bool) : List String → Program
  | [] => .exitWith (if failed then 1 else 0)
  | operand :: rest =>
    let proceed (failedNow : Bool) : Program :=
      eachFile invocation headers copy false (failed || failedNow) rest
    let missing (text : String) : Program :=
      warn invocation ("cannot open " ++ shownPath operand ++ " for reading: " ++ text) fun _ =>
        eachFile invocation headers copy first true rest
    openOperand invocation operand missing fun opened =>
      emit invocation (if headers then fileHeader first operand else []) fun _ => copy opened operand proceed

def readError (invocation : Invocation) (operand : String) (next : Bool → Program) (errno : Errno) : Program :=
  warn invocation ("error reading " ++ shownPath (if operand == "-" then "standard input" else operand) ++ ": " ++
    errno.text) fun _ => next true

def allButLast (mark : UInt8) (extent : Extent) (data : Bytes) : Bytes :=
  match extent with
  | .bytes count => data.take (data.length - count)
  | .lines 0 => data
  | .lines count =>
    let lines := recordsOf mark data
    unrecords mark (lines.take (lines.length - count))

def head : Utility := fun invocation =>
  let run (options : Options) : Program :=
    let (letter, value) := (options.given.reverse.find? fun (letter, _) => letter = 'n' || letter = 'c').getD ('n', "10")
    let extent := readExtent letter (withoutMinus value)
    let operands := operandsOrInput options.operands
    let headers := (options.lastOf? ['q', 'v']).elim (1 < operands.length : Bool) (· == 'v')
    let mark := lineMark options
    eachFile invocation headers (fun opened operand next =>
      if value.toList.head? == some '-' then
        Source.readRest opened fun data failure =>
          match failure with
          | some e => readError invocation operand next e
          | none =>
            let kept := allButLast mark extent data
            emit invocation kept fun _ => opened.giveBack (data.length - kept.length) fun _ => next false
      else
        copyHead invocation mark (fun _ => next false) (readError invocation operand next) Program.lifetime opened extent)
      true false operands
  match (invocation.arguments.headD "").toList with
  | '-' :: digit :: letters =>
    if digit.isDigit then
      match readOldHead (digit :: letters.takeWhile Char.isDigit) (letters.dropWhile Char.isDigit) with
      | .error letter => refuse invocation ("invalid trailing option -- " ++ String.singleton letter)
      | .ok given => withOptionsAfter headTable given { invocation with arguments := invocation.arguments.drop 1 } 1 run
    else withOptions headTable invocation 1 run
  | _ => withOptions headTable invocation 1 run

def tailOf (mark : UInt8) (sign : Option Char) (extent : Extent) (data : Bytes) : Bytes :=
  match extent with
  | .bytes count => if sign == some '+' then data.drop (count - 1) else data.drop (data.length - count)
  | .lines count =>
    let pieces := data.splitOn mark
    let lines := if pieces.getLast? == some [] then pieces.length - 1 else pieces.length
    let skipped := if sign == some '+' then count - 1 else lines - count
    (List.intersperse [mark] (pieces.drop skipped)).flatten

/-- The options in the manner of `-5` or `+5c`, read from the only argument in front
of at most one file; nothing if there are none. -/
def readOldTail (arguments : List String) : Option (Except String (Char × String)) :=
  let isLone : Bool :=
    match arguments with
    | [_] => true
    | [_, file] => file == "-" || file == "--" || file.toList.head? != some '-'
    | [_, second, _] => second == "--"
    | _ => false
  match (arguments.headD "").toList with
  | [] => none
  | sign :: letters =>
    let digits := letters.takeWhile Char.isDigit
    let unit := letters.drop digits.length
    let isRead := sign = '+' || (sign = '-' && !letters.isEmpty && letters != ['c'])
    let follows : List Char → Bool := fun rest => rest.isEmpty || rest == ['f']
    let amount (option : Char) (factor : String) : Option (Except String (Char × String)) :=
      let word := if digits.isEmpty then "10" else String.ofList digits
      match (extentRule option).read (word ++ factor) with
      | .ok _ => some (.ok (option, String.singleton sign ++ word ++ factor))
      | .error _ => some (.error (arguments.headD ""))
    if !isLone || !isRead then none
    else
      match unit with
      | 'l' :: rest => if follows rest then amount 'n' "" else none
      | 'c' :: rest => if follows rest then amount 'c' "" else none
      | 'b' :: rest => if follows rest then amount 'c' "b" else none
      | rest => if follows rest then amount 'n' "" else none

/-- Passes the ends of files on. Once a count from the beginning is asked for, all
counts are such. -/
def tail : Utility := fun invocation =>
  let run (options : Options) : Program :=
    let extents := options.given.filter fun (letter, _) => letter = 'n' || letter = 'c'
    let (letter, value) := extents.getLastD ('n', "10")
    let extent := readExtent letter (withoutMinus value)
    let sign := if extents.any (·.2.toList.head? == some '+') then some '+' else none
    let operands := operandsOrInput options.operands
    let headers := (options.lastOf? ['q', 'v']).elim (1 < operands.length : Bool) (· == 'v')
    let follows := ['f', 'F', '='].any options.has
    let byName := options.has 'F' || (options.value? '=').any fun name => (followChoices.choose name).toOption == some true
    let isBytes := letter = 'c'
    let copy (_ : Unit) : Program :=
      if byName && operands.contains "-" then fail invocation ("cannot follow " ++ shownPath "-" ++ " by name")
      else if sign.isNone && !follows && (extent == .lines 0 || extent == .bytes 0) then .exitWith 0
      else
        eachFile invocation headers (fun opened operand next =>
          Source.readRest opened fun data failure =>
            match failure with
            | some e => readError invocation operand (if isBytes then fun _ => .exitWith 1 else next) e
            | none => emit invocation (tailOf (lineMark options) sign extent data) fun _ => next false)
          true false operands
    let note (isDue : Bool) (text : String) (next : Unit → Program) : Program :=
      if isDue then warn invocation ("warning: " ++ text) next else next ()
    note ((options.has '~' || options.has 'F') && !follows) "--retry ignored; --retry is useful only when following" fun _ =>
      note (options.has '~' && follows && !byName) "--retry only effective for the initial open" fun _ =>
        note (options.has '+' && !follows) "PID ignored; --pid=PID is useful only when following" copy
  match readOldTail invocation.arguments with
  | none => withOptions tailTable invocation 1 run
  | some (.error word) => fail invocation ("invalid number: " ++ shown word ++ ": Numerical result out of range")
  | some (.ok given) => withOptionsAfter tailTable [given] { invocation with arguments := invocation.arguments.drop 1 } 1 run

end PipeShell.Utility
