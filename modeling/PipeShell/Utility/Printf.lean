import PipeShell.Text.Real
import PipeShell.Utility.Basic
import PipeShell.Utility.Escape

/-! # Formatted printing

A format is a row of literal texts and directives. The directives take the
arguments in turn; the format is used again for as long as arguments are left. -/

set_option autoImplicit false

namespace PipeShell.Utility

inductive FieldSize where
  | absent
  | given (size : Nat)
  | argument
  deriving DecidableEq, Repr

inductive FormatPart where
  | literal (bytes : Bytes)
  | directive (flags : List Char) (width digits : FieldSize) (letter : Char)
  | stop
  /-- A faulty escape, which ends all output. -/
  | faulty (text : String)
  /-- A directive of no known kind, as it is written. -/
  | unknown (text : String)
  | unfinished (text : String)
  deriving DecidableEq, Repr

structure PrintfDialect where
  format : EscapeDialect
  /-- The escapes in the argument of `%b`. -/
  argument : EscapeDialect
  /-- The flags that may stand in a directive. -/
  flags : List Char
  /-- The letters that may stand in front of the letter of a directive. -/
  sizes : List Char
  letters : List Char
  /-- The flags that no directive with a letter may have. -/
  forbids : Char → List Char
  /-- The letters of directives that have neither flags nor sizes. -/
  bare : List Char := []
  /-- How many binary digits a number keeps, and how large its exponent gets. -/
  bits : Nat
  greatest : Nat
  shown : String → String
  /-- The complaint about an argument that is no number. -/
  notNumber : String
  /-- The complaint about an argument that begins with a number. -/
  partNumber : String
  unknown : String
  /-- The warning about what follows a quote and a character, if there is one. -/
  constant : String → Option String := fun _ => none
  /-- The complaint about a directive without its letter. -/
  unfinished : String → String

def takeSize (text : Bytes) : FieldSize × Bytes :=
  if text.head? == some (ascii '*') then (.argument, text.drop 1)
  else
    let (count, value) := readDigits 10 text.length text
    (if count = 0 then .absent else .given value, text.drop count)

def readDirective (dialect : PrintfDialect) (text : Bytes) : FormatPart × Nat :=
  let isFlag (b : UInt8) : Bool := dialect.flags.any (ascii · == b)
  let flags := (text.takeWhile isFlag).map fun b => Char.ofNat b.toNat
  let (width, rest) := takeSize (text.dropWhile isFlag)
  let (digits, rest) :=
    if rest.head? == some (ascii '.') then
      match takeSize (rest.drop 1) with
      | (.absent, rest) => (.given 0, rest)
      | found => found
    else (.absent, rest)
  match rest.dropWhile fun b => dialect.sizes.any (ascii · == b) with
  | [] => (.unfinished ("%" ++ rawText text), text.length)
  | letter :: behind =>
    let taken := text.length - behind.length
    let letter := Char.ofNat letter.toNat
    let allowed := dialect.letters.contains letter && !flags.any (dialect.forbids letter).contains &&
      !(letter = 'c' && digits != .absent && (dialect.forbids 'c').contains '.') &&
      !(dialect.bare.contains letter && 1 < taken)
    if allowed then (.directive flags width digits letter, taken)
    else (.unknown ("%" ++ rawText (text.take taken)), taken)

/-- The parts of a format. `skip` characters belong to a part that was already
read. -/
def readFormat (dialect : PrintfDialect) (skip : Nat) : Bytes → List FormatPart
  | [] => []
  | b :: rest =>
    match skip with
    | skip + 1 => readFormat dialect skip rest
    | 0 =>
      if b = 92 then
        match readEscape dialect.format rest with
        | .stop => [.stop]
        | .faulty text => [.faulty text]
        | .bytes bytes taken => .literal bytes :: readFormat dialect taken rest
      else if b = ascii '%' then
        if rest.head? == some (ascii '%') then .literal [b] :: readFormat dialect 1 rest
        else
          let (part, taken) := readDirective dialect rest
          part :: readFormat dialect taken rest
      else .literal [b] :: readFormat dialect 0 rest

def justify (flags : List Char) (width : Nat) (data : Bytes) : Bytes :=
  let missing := width - data.length
  if flags.contains '-' then data ++ List.replicate missing 32 else List.replicate missing 32 ++ data

def signOf (flags : List Char) (negative : Bool) : List Char :=
  if negative then ['-'] else if flags.contains '+' then ['+'] else if flags.contains ' ' then [' '] else []

def justifyNumber (flags : List Char) (width : Nat) (zeros : Bool) (sign body : List Char) : Bytes :=
  if flags.contains '0' && zeros && !flags.contains '-' then
    Text.encode (sign ++ List.replicate (width - (sign.length + body.length)) '0' ++ body)
  else justify flags width (Text.encode (sign ++ body))

def formatNumber (flags : List Char) (width : Nat) (digits : Option Nat) (letter : Char) (value : Int) : Bytes :=
  let signed := letter = 'd' || letter = 'i'
  let magnitude := if signed then value.natAbs else (value % 18446744073709551616).toNat
  let base := if letter = 'o' then 8 else if letter = 'x' || letter = 'X' then 16 else 10
  let plain := if digits == some 0 && magnitude = 0 then [] else Nat.toDigits base magnitude
  let plain := if letter = 'X' then plain.map Char.toUpper else plain
  let body := List.replicate ((digits.getD 1) - plain.length) '0' ++ plain
  let body := if flags.contains '#' && base = 8 && body.head? != some '0' then '0' :: body else body
  let sign := if signed then signOf flags (value < 0) else []
  let lead := if flags.contains '#' && base = 16 && magnitude != 0 then ['0', letter] else []
  justifyNumber flags width digits.isNone (sign ++ lead) body

def formatReal (bits : Nat) (flags : List Char) (width : Nat) (digits : Option Nat) (letter : Char)
    (value : Text.Real) : Bytes :=
  let pointed := flags.contains '#'
  let sign := signOf flags value.negative
  let upper (text : List Char) : List Char := if letter.isUpper then text.map Char.toUpper else text
  match value.magnitude with
  | .infinite => justifyNumber flags width false sign (upper "inf".toList)
  | .nan => justifyNumber flags width false sign (upper "nan".toList)
  | .finite num den =>
    let body :=
      match letter.toLower with
      | 'f' => Text.Real.fixedText pointed (digits.getD 6) num den
      | 'e' => Text.Real.scientificText pointed (digits.getD 6) num den
      | 'g' => Text.Real.generalText pointed (digits.getD 6) num den
      | _ => Text.Real.binaryText bits num den
    justifyNumber flags width true sign (upper body)

/-- What an argument is worth, and what is said about it. -/
structure Worth (α : Type) where
  value : α
  complaint : Option String := none
  warning : Option String := none

/-- The byte of the character behind a quote that begins a word, and the text behind
it. -/
def quoted? (word : String) : Option (UInt8 × Bytes) :=
  match rawBytes word with
  | mark :: b :: rest => if mark = 39 || mark = 34 then some (b, rest) else none
  | _ => none

def numberOf (dialect : PrintfDialect) (signed : Bool) (word : String) : Worth Int :=
  match quoted? word with
  | some (b, rest) => {
      value := b.toNat
      warning := if rest.isEmpty then none else dialect.constant (rawText rest) }
  | none => if word.isEmpty then { value := 0 } else number fun text => some (dialect.shown word ++ ": " ++ text)
where
  /-- The number that the word begins with. -/
  number (complaint : String → Option String) : Worth Int :=
    let bytes := (rawBytes word).dropWhile fun b => b = 32 || (9 ≤ b && b ≤ 13)
    let negative := bytes.head? == some (ascii '-')
    let bytes := if negative || bytes.head? == some (ascii '+') then bytes.drop 1 else bytes
    let (base, start) :=
      match bytes with
      | 48 :: x :: d :: _ =>
        if (x = ascii 'x' || x = ascii 'X') && (digitValue? 16 d).isSome then (16, 2) else (8, 0)
      | 48 :: _ => (8, 0)
      | _ => (10, 0)
    let digits := bytes.drop start
    let (count, value) := readDigits base digits.length digits
    let limit := if signed then (if negative then 9223372036854775808 else 9223372036854775807) else 18446744073709551615
    let held := min value limit
    let result : Int := if negative && value ≤ limit || negative && signed then -(Int.ofNat held) else Int.ofNat held
    if count = 0 then { value := 0, complaint := complaint dialect.notNumber }
    else if count < digits.length then { value := result, complaint := complaint dialect.partNumber }
    else if limit < value then { value := result, complaint := complaint "Numerical result out of range" }
    else { value := result }

def realOf (dialect : PrintfDialect) (word : String) : Worth Text.Real :=
  let complaint (text : String) : Option String := some (dialect.shown word ++ ": " ++ text)
  let zero : Text.Real := { magnitude := .finite 0 1 }
  match quoted? word with
  | some (b, rest) => {
      value := { magnitude := .finite b.toNat 1 }
      warning := if rest.isEmpty then none else dialect.constant (rawText rest) }
  | none =>
    if word.isEmpty then { value := zero }
    else
      match Text.Real.take word.toList with
      | none => { value := zero, complaint := complaint dialect.notNumber }
      | some (value, rest) => {
          value := value.round dialect.bits dialect.greatest
          complaint := if rest.isEmpty then none else complaint dialect.partNumber }

inductive PrintEvent where
  | piece (bytes : Bytes)
  | complaint (text : String)
  deriving DecidableEq, Repr

structure Printed where
  /-- What came of it, the newest first. -/
  events : List PrintEvent := []
  arguments : List String
  stopped : Bool := false
  failed : Bool := false
  broken : Bool := false

namespace Printed

def add (printed : Printed) (bytes : Bytes) : Printed := { printed with events := .piece bytes :: printed.events }

def complain (printed : Printed) (text : Option String) : Printed :=
  match text with
  | none => printed
  | some text => { printed with events := .complaint text :: printed.events, failed := true }

def hear {α : Type} (printed : Printed) (worth : Worth α) : Printed :=
  let printed := match worth.warning with
    | none => printed
    | some text => { printed with events := .complaint text :: printed.events }
  printed.complain worth.complaint

def next (printed : Printed) : Option String × Printed :=
  (printed.arguments.head?, { printed with arguments := printed.arguments.tail })

def size (dialect : PrintfDialect) (printed : Printed) : FieldSize → Option Int × Printed
  | .absent => (none, printed)
  | .given size => (some (Int.ofNat size), printed)
  | .argument =>
    let (word, printed) := printed.next
    let worth := (word.map (numberOf dialect true)).getD { value := 0 }
    (some worth.value, printed.hear worth)

def output (printed : Printed) : Bytes :=
  (printed.events.reverse.map fun event =>
    match event with
    | .piece bytes => bytes
    | .complaint _ => []).flatten

def complaints (printed : Printed) : List String :=
  printed.events.reverse.filterMap fun event =>
    match event with
    | .piece _ => none
    | .complaint text => some text

end Printed

def printPart (dialect : PrintfDialect) (printed : Printed) (part : FormatPart) : Printed :=
  if printed.stopped then printed
  else
    match part with
    | .literal bytes => printed.add bytes
    | .stop => { printed with stopped := true }
    | .faulty text => { printed.complain (some text) with stopped := true, broken := true }
    | .unknown text =>
      { printed.complain (some (text ++ ": " ++ dialect.unknown)) with stopped := true, broken := true }
    | .unfinished text =>
      { printed.complain (some (dialect.unfinished text)) with stopped := true, broken := true }
    | .directive flags width digits letter =>
      let (width, printed) := printed.size dialect width
      let flags := if (width.getD 0) < 0 then '-' :: flags else flags
      let width := (width.getD 0).natAbs
      let (digits, printed) := printed.size dialect digits
      let digits := digits.bind fun digits => if digits < 0 then none else some digits.toNat
      let (argument, after) := printed.next
      let word := argument.getD ""
      let clip (data : Bytes) : Bytes := digits.elim data data.take
      if letter = 's' then after.add (justify flags width (clip (rawBytes word)))
      else if letter = 'q' then after.add (rawBytes (argument.elim "" (unquotedOr [])))
      else if letter = 'b' then
        let text := unescape dialect.argument (rawBytes word)
        let broken := text.fault.isSome
        { (after.add (justify flags width (clip text.bytes))).complain text.fault with stopped := text.stopped, broken }
      else if letter = 'c' then
        after.add (justify flags width (if word.isEmpty then [0] else (rawBytes word).take 1))
      else if ['d', 'i', 'o', 'u', 'x', 'X'].contains letter then
        let worth := numberOf dialect (letter = 'd' || letter = 'i') word
        (after.hear worth).add (formatNumber flags width digits letter worth.value)
      else
        let worth := realOf dialect word
        (after.hear worth).add (formatReal dialect.bits flags width digits letter worth.value)

def printRounds (dialect : PrintfDialect) (parts : List FormatPart) (printed : Printed) : Nat → Printed
  | 0 => printed
  | bound + 1 =>
    let after := parts.foldl (printPart dialect) printed
    if after.stopped || after.arguments.isEmpty || after.arguments.length = printed.arguments.length then after
    else printRounds dialect parts after bound

def printFormatted (dialect : PrintfDialect) (format : String) (arguments : List String) : Printed :=
  printRounds dialect (readFormat dialect 0 (rawBytes format)) { arguments } (arguments.length + 1)

def printfDialect : PrintfDialect where
  format := ⟨true, false, true, true, true, true, true⟩
  argument := ⟨true, true, true, true, true, true, true⟩
  flags := ['-', '+', ' ', '0', '#', '\'']
  sizes := ['l', 'L', 'h', 'j', 't', 'z']
  letters := ['d', 'i', 'o', 'u', 'x', 'X', 'c', 's', 'b', 'q', 'a', 'A', 'e', 'E', 'f', 'F', 'g', 'G']
  forbids := fun letter =>
    (if ['c', 'd', 'i', 's', 'u'].contains letter then ['#'] else []) ++
      (if ['c', 's'].contains letter then ['0'] else []) ++
      (if ['d', 'i', 'u', 'f', 'F', 'g', 'G'].contains letter then [] else ['\'']) ++
      (if letter = 'c' then ['.'] else [])
  bare := ['b', 'q']
  bits := 64
  greatest := 16384
  shown := shown
  notNumber := "expected a numeric value"
  partNumber := "value not completely converted"
  unknown := "invalid conversion specification"
  unfinished := fun text => text ++ ": invalid conversion specification"
  constant := fun rest => some ("warning: " ++ rest ++ ": character(s) following character constant have been ignored")

def putEvents (invocation : Invocation) (events : List PrintEvent) (next : Unit → Program) : Program :=
  let rec go (held : List Bytes) : List PrintEvent → Program
    | [] =>
      let data := held.reverse.flatten
      if data.isEmpty then next () else emit invocation data next
    | .piece bytes :: rest => go (bytes :: held) rest
    | .complaint text :: rest =>
      let data := held.reverse.flatten
      if data.isEmpty then warn invocation text fun _ => go [] rest
      else emit invocation data fun _ => warn invocation text fun _ => go [] rest
  go [] events

def printf : Utility := fun invocation =>
  let arguments :=
    match invocation.arguments with
    | "--" :: rest => rest
    | arguments => arguments
  match arguments with
  | [] => refuse invocation "missing operand"
  | format :: arguments =>
    let printed := printFormatted printfDialect format arguments
    let excess : List PrintEvent :=
      if printed.stopped then []
      else printed.arguments.head?.toList.map fun word =>
        .complaint ("warning: ignoring excess arguments, starting with " ++ shown word)
    putEvents invocation (printed.events.reverse ++ excess) fun _ => .exitWith (if printed.failed then 1 else 0)

end PipeShell.Utility
