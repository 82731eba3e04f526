import PipeShell.Utility.Change
import PipeShell.Utility.FileFacts
import PipeShell.Utility.Listing.Request
import PipeShell.Utility.Printf

/-! # Telling what is known of files

A form is text with directives in it. Each directive stands for one of the facts about a
file, written with flags, a width and a precision as those of printed numbers and texts
are. -/

set_option autoImplicit false

namespace PipeShell.Utility

open PipeShell.System

inductive StatusPart where
  | bytes (data : Bytes)
  /-- A fact by its letter, or the greater or lesser half of one. -/
  | fact (flags : List Char) (width : Nat) (digits : Option Nat) (half : Option Char) (letter : Char)
  | remark (text : String)
  | fault (text : String)
  deriving DecidableEq, Repr

def statusFlags : List Char := ['\'', '-', '+', ' ', '#', '0', 'I']

def readStatusDirective (halves : List Char) (text : List Char) : StatusPart × Nat :=
  let flags := text.takeWhile statusFlags.contains
  let width := (text.drop flags.length).takeWhile Char.isDigit
  let behind := text.drop (flags.length + width.length)
  let (point, digits) : List Char × Option (List Char) :=
    match behind with
    | '.' :: rest => (['.'], some (rest.takeWhile Char.isDigit))
    | _ => ([], none)
  let front := flags ++ width ++ point ++ digits.getD []
  let number (digits : List Char) : Nat := (number? (String.ofList digits)).getD 0
  let fact := StatusPart.fact flags (number width) (digits.map number)
  let fault (behind : List Char) : StatusPart :=
    .fault (shown (String.ofList ('%' :: front ++ behind)) ++ ": invalid directive")
  match text.drop front.length with
  | [] => if front.isEmpty then (.bytes [37], 0) else (fault [], 0)
  | '%' :: _ => if front.isEmpty then (.bytes [37], 1) else (fault ['%'], 0)
  | letter :: next :: _ =>
    if (letter = 'H' || letter = 'L') && halves.contains next then (fact (some letter) next, front.length + 2)
    else (fact none letter, front.length + 1)
  | [letter] => (fact none letter, front.length + 1)

def readStatusEscape (text : List Char) : List StatusPart × Nat :=
  let value (base : Nat) (digits : List Char) : StatusPart :=
    .bytes [(digits.foldl (fun value c => value * base + (if c.isDigit then c.toNat - 48 else c.toLower.toNat - 87)) 0).toUInt8]
  let isOctal (c : Char) : Bool := '0' ≤ c && c ≤ '7'
  let isHexadecimal (c : Char) : Bool := c.isDigit || ('a' ≤ c.toLower && c.toLower ≤ 'f')
  let octal := (text.take 3).takeWhile isOctal
  let hexadecimal := ((text.drop 1).take 2).takeWhile isHexadecimal
  if !octal.isEmpty then ([value 8 octal], octal.length)
  else
    match text with
    | [] => ([.remark "warning: backslash at end of format", .bytes [92]], 0)
    | c :: _ =>
      if c = 'x' && !hexadecimal.isEmpty then ([value 16 hexadecimal], hexadecimal.length + 1)
      else
        let code : Option UInt8 := [('a', 7), ('b', 8), ('e', 27), ('f', 12), ('n', 10), ('r', 13), ('t', 9), ('v', 11)].lookup c
        match code with
        | some b => ([.bytes [b]], 1)
        | none =>
          let known := c = '"' || c = '\\'
          ((if known then [] else [.remark ("warning: unrecognized escape '\\" ++ String.singleton c ++ "'")]) ++
            [.bytes (rawBytes (String.singleton c))], 1)

def readStatusForm (escapes : Bool) (halves : List Char) (skip : Nat) : List Char → List StatusPart
  | [] => []
  | c :: rest =>
    match skip with
    | skip + 1 => readStatusForm escapes halves skip rest
    | 0 =>
      if c = '%' then
        let (part, taken) := readStatusDirective halves rest
        part :: readStatusForm escapes halves taken rest
      else if c = '\\' && escapes then
        let (parts, taken) := readStatusEscape rest
        parts ++ readStatusForm escapes halves taken rest
      else .bytes (rawBytes (String.singleton c)) :: readStatusForm escapes halves 0 rest

/-- One of the facts about a file, as it is written. -/
inductive StatusFact where
  | text (bytes : Bytes)
  /-- Two texts with an arrow between them. -/
  | arrow (front behind : Bytes)
  | count (value : Nat)
  | octal (value : Nat)
  | hexadecimal (value : Nat)
  | unknown
  deriving DecidableEq, Repr

/-- The bytes of a fact under the flags, the width and the precision of its directive. -/
def StatusFact.write (flags : List Char) (width : Nat) (digits : Option Nat) : StatusFact → Bytes
  | .text bytes => justified bytes
  | .arrow front behind => justified front ++ rawBytes " -> " ++ justified behind
  | .count value => numbered ['-', '0'] 'u' value
  | .octal value => numbered ['-', '#', '0'] 'o' value
  | .hexadecimal value => numbered ['-', '#', '0'] 'x' value
  | .unknown => [63]
where
  justified (bytes : Bytes) : Bytes :=
    justify (flags.filter (· == '-')) width (digits.elim bytes fun count => bytes.take count)
  numbered (known : List Char) (letter : Char) (value : Nat) : Bytes :=
    formatNumber (flags.filter known.contains) width digits letter value

def deviceNumber : Nat := 65024

def momentOfFiles : String := "1970-01-01 00:00:00.000000000 +0000"

def factOf (files : FileSystem) (quoting : QuotingStyle) (path : String) (location : Location) (node : Node)
    (half : Option Char) (letter : Char) : StatusFact :=
  let attributes := files.attributesOf node
  let quoted (name : String) : Bytes := quoting.quoted [] (rawBytes name)
  let (major, minor) : Nat × Nat :=
    match node with
    | .device device => deviceNumbers device
    | _ => (0, 0)
  match letter with
  | 'n' => .text (rawBytes path)
  | 'N' =>
    match node with
    | .link target => .arrow (quoted path) (quoted target)
    | _ => .text (quoted path)
  | 'd' =>
    match half with
    | some 'H' => .count (deviceNumber / 256)
    | some _ => .count (deviceNumber % 256)
    | none => .count deviceNumber
  | 'D' => .hexadecimal deviceNumber
  | 'i' => .count (nodeNumber files location node)
  | 'a' => .octal attributes.mode
  | 'A' => .text (rawBytes (modeLetters files node))
  | 'f' => .hexadecimal (kindBits node + attributes.mode)
  | 'F' => .text (rawBytes (kindName files node))
  | 'h' => .count (linkCount files location node)
  | 'u' => .count attributes.owner
  | 'U' => .text (rawBytes (userName attributes.owner))
  | 'g' => .count 0
  | 'G' => .text (rawBytes "root")
  | 'm' => .text (rawBytes "/")
  | 's' => .count (byteSize files node)
  | 'r' =>
    match half with
    | some 'H' => .count major
    | some _ => .count minor
    | none => .count (major * 256 + minor)
  | 'R' => .hexadecimal (major * 256 + minor)
  | 't' => .hexadecimal major
  | 'T' => .hexadecimal minor
  | 'B' => .count 512
  | 'b' => .count (storedSize files node / 512)
  | 'o' => .count storageBlock
  | 'w' | 'x' | 'y' | 'z' => .text (rawBytes momentOfFiles)
  | 'W' | 'X' | 'Y' | 'Z' => .count 0
  | 'C' => .text [63]
  | _ => .unknown

def systemFactOf (path : String) (letter : Char) : StatusFact :=
  match letter with
  | 'n' => .text (rawBytes path)
  | 'l' => .count 255
  | 's' | 'S' => .count storageBlock
  | _ => .unknown

def usualStatusForm (isShort ofSystem : Bool) (node : Node) : String :=
  match ofSystem, isShort with
  | true, true => "%n %i %l %t %s %S %b %f %a %c %d\n"
  | true, false =>
    "  File: \"%n\"\n    ID: %-8i Namelen: %-7l Type: %T\nBlock size: %-10s Fundamental block size: %S\n" ++
      "Blocks: Total: %-10b Free: %-10f Available: %a\nInodes: Total: %-10c Free: %d\n"
  | false, true => "%n %s %b %f %u %g %D %i %h %t %T %X %Y %Z %W %o\n"
  | false, false =>
    let links :=
      match node with
      | .device _ => "  Links: %-5h Device type: %Hr,%Lr\n"
      | _ => "  Links: %h\n"
    "  File: %N\n  Size: %-10s\tBlocks: %-10b IO Block: %-6o %F\nDevice: %Hd,%Ld\tInode: %-10i" ++ links ++
      "Access: (%04a/%10.10A)  Uid: (%5u/%8U)   Gid: (%5g/%8G)\n" ++
      "Access: %x\nModify: %y\nChange: %z\n Birth: %w\n"

structure StatusRequest where
  follows : Bool
  ofSystem : Bool
  isShort : Bool
  /-- The form, and whether escapes count in it and no line ends behind it. -/
  form : Option (String × Bool)
  quoting : QuotingStyle

namespace StatusRequest

def parts (request : StatusRequest) (node : Node) : List StatusPart :=
  let halves := if request.ofSystem then [] else ['d', 'r']
  match request.form with
  | some (form, true) => readStatusForm true halves 0 form.toList
  | some (form, false) => readStatusForm false halves 0 form.toList ++ [.bytes [10]]
  | none => readStatusForm false halves 0 (usualStatusForm request.isShort request.ofSystem node).toList

def tell (invocation : Invocation) (path : String) (fact : Option Char → Char → StatusFact) (held : Bytes) :
    List StatusPart → Task Unit
  | [] => fun progress next => emit invocation held fun _ => next () progress
  | .bytes data :: rest => tell invocation path fact (held ++ data) rest
  | .fact flags width digits half letter :: rest => do
    if letter = 'C' then
      Task.complain invocation ("failed to get security context of " ++ shownPath path ++ ": No data available")
    tell invocation path fact (held ++ (fact half letter).write flags width digits) rest
  | .remark text :: rest => do
    Task.mention invocation text
    tell invocation path fact held rest
  | .fault text :: _ => Task.stop (emit invocation held fun _ => fail invocation text)

def tellFile (request : StatusRequest) (invocation : Invocation) (path : String) : Task Unit := do
  let files ← Task.look
  let (follows, reached) : Bool × String :=
    if path = "-" && !request.ofSystem then (true, "/dev/stdin") else (request.follows || request.ofSystem, path)
  match files.examine invocation.viewer follows reached with
  | .error failure =>
    let front := if request.ofSystem then "cannot read file system information for " else "cannot statx "
    Task.complain invocation (front ++ shownPath path ++ ": " ++ reason failure)
  | .ok (location, node) =>
    let fact (half : Option Char) (letter : Char) : StatusFact :=
      if request.ofSystem then systemFactOf path letter else factOf files request.quoting path location node half letter
    tell invocation path fact [] (request.parts node)

end StatusRequest

def statusQuoting (environment : Environment) (form : Option String) : QuotingStyle × List String :=
  if !form.any fun form => 1 < (form.splitOn "%N").length then (.literal, [])
  else
    match environment.get? "QUOTING_STYLE" with
    | none => (.shellEscapeAlways, [])
    | some word =>
      match quotingChoices.choose word with
      | .ok index => (quotingAt index, [])
      | .error _ =>
        (.shellEscapeAlways, ["ignoring invalid value of environment variable QUOTING_STYLE: " ++ shown word])

def cachedChoices : Choices Nat := [("default", 0), ("never", 1), ("always", 2)]

def tellStatus : Utility := fun invocation =>
  let table : OptionTable := {
    flags := ['L', 't', 'f'], valued := ['c', '=', '+']
    long := [("dereference", 'L'), ("file-system", 'f'), ("format", 'c'), ("printf", '='), ("terse", 't'), ("cached", '+')]
    check := fun letter value => if letter = '+' then cachedChoices.refusal? "--cached" value else none }
  withOptions table invocation 1 fun options =>
    if options.operands.isEmpty then refuse invocation "missing operand"
    else
      let form := (options.lastOf? ['c', '=']).map fun letter => ((options.value? letter).getD "", letter == '=')
      let (quoting, warnings) := statusQuoting invocation.environment (form.map (·.1))
      let ofSystem := options.has 'f'
      let request : StatusRequest :=
        { follows := options.has 'L', ofSystem, isShort := options.has 't', form, quoting }
      Task.run do
        warnings.forM (Task.mention invocation)
        options.operands.forM fun path =>
          if ofSystem && path = "-" then
            Task.complain invocation "using '-' to denote standard input does not work in file system mode"
          else request.tellFile invocation path

end PipeShell.Utility
