import PipeShell.System.Directories
import PipeShell.Utility.Basic
import PipeShell.Utility.Sort.Report

/-! # Sorting lines

Lines of files are put in order, or looked at whether they are in order. -/

set_option autoImplicit false

namespace PipeShell.Utility

open PipeShell.System

structure SortRequest where
  keys : List SortKey := []
  /-- What the options say about keys that say nothing themselves. -/
  shared : SortKey := {}
  /-- The letter by which it is asked whether lines are in order. -/
  check : Option Char := none
  separator : Option UInt8 := none
  output : Option String := none
  compressor : Option String := none
  randomSource : Option String := none
  list : Option String := none
  stable : Bool := false
  unique : Bool := false
  merging : Bool := false
  reported : Bool := false
  mark : UInt8 := 10

def sortTable : OptionTable := {
  flags := ['r', 'n', 'u', 'f', 'b', 's', 'c', 'C', 'd', 'g', 'z', 'h', 'i', 'M', 'V', 'm', 'R', '~'],
  valued := ['k', 't', 'o', 'S', 'T', '+', '@', '%', '&', '#', '!', 'y'], optional := ['='], counted := ['y']
  long := [("ignore-leading-blanks", 'b'), ("check", '='), ("compress-program", '%'), ("debug", '~'),
    ("dictionary-order", 'd'), ("ignore-case", 'f'), ("files0-from", '@'), ("general-numeric-sort", 'g'),
    ("ignore-nonprinting", 'i'), ("key", 'k'), ("merge", 'm'), ("month-sort", 'M'), ("numeric-sort", 'n'),
    ("human-numeric-sort", 'h'), ("version-sort", 'V'), ("random-sort", 'R'), ("random-source", '&'), ("sort", '+'),
    ("output", 'o'), ("reverse", 'r'), ("stable", 's'), ("batch-size", '#'), ("buffer-size", 'S'),
    ("field-separator", 't'), ("temporary-directory", 'T'), ("unique", 'u'), ("zero-terminated", 'z'), ("parallel", '!')]
  older := fun word next =>
    match next.map String.toList with
    | some ('-' :: digit :: more) =>
      if (readOldStart? word).isNone then none
      else if digit.isDigit then some ('^', word ++ " " ++ String.ofList ('-' :: digit :: more), true)
      else some ('^', word, false)
    | _ => if (readOldStart? word).isSome then some ('^', word, false) else none }

def sortChoices : Choices Char :=
  [("general-numeric", 'g'), ("human-numeric", 'h'), ("month", 'M'), ("numeric", 'n'), ("random", 'R'), ("version", 'V')]

def checkChoices : Choices Char := [("quiet", 'C'), ("silent", 'C'), ("diagnose-first", 'c')]

def incompatible (letters : String) : Refusal :=
  { message := "options '-" ++ letters ++ "' are incompatible", hinted := false }

/-- Why a size is refused that is the value of an option, as it is written. -/
def sizeRefusal? (option word : String) (units further : List Char) : Option Refusal :=
  let text := word.toList.dropWhile isBlankChar
  let text := if text.head? == some '+' then text.tail else text
  let digits := text.takeWhile Char.isDigit
  let unit := text.drop digits.length
  let refusal (message : String) : Option Refusal := some { message, hinted := false }
  let isLarge : Bool := largestCount < Int.ofNat ((number? (String.ofList digits)).getD 0)
  if digits.isEmpty then refusal ("invalid " ++ option ++ " argument " ++ shown word)
  else if unit.length = 1 && unit.all further.contains then none
  else
    match unitFactor? units unit with
    | some (_, []) => if isLarge then refusal (option ++ " argument " ++ shown word ++ " too large") else none
    | _ => refusal ("invalid suffix in " ++ option ++ " argument " ++ shown word)

def readSeparator (word : String) : Except String UInt8 :=
  match rawBytes word with
  | [] => .error "empty tab"
  | [b] => .ok b
  | [92, 48] => .ok 0
  | _ => .error ("multi-character tab " ++ shown word)

namespace SortRequest

def once (old : Option String) (what value : String) (next : SortRequest) : Except Refusal SortRequest :=
  if old.any (· != value) then .error { message := "multiple " ++ what ++ " specified", hinted := false } else .ok next

def share (request : SortRequest) (letter : Char) : SortRequest :=
  let shared := request.shared
  { request with
    shared :=
      if letter = 'b' then { shared with skipStart := true, skipStop := true }
      else { shared with letters := shared.letters ++ [letter] } }

def addKey (request : SortRequest) (key : Except String SortKey) : Except Refusal SortRequest :=
  match key with
  | .ok key => .ok { request with keys := request.keys ++ [key] }
  | .error message => .error { message, hinted := false }

def checkBy (request : SortRequest) (letter : Char) : Except Refusal SortRequest :=
  if request.check.any (· != letter) then .error (incompatible "cC") else .ok { request with check := some letter }

def adopt (request : SortRequest) (letter : Char) (value : String) : Except Refusal SortRequest :=
  let accept (refusal : Option Refusal) : Except Refusal SortRequest := refusal.elim (.ok request) .error
  match letter with
  | 'k' => request.addKey (readSortKey value)
  | '^' =>
    match value.splitOn " " with
    | [start, stop] => request.addKey (readOldStop ((readOldStart? start).getD {}) stop)
    | _ => request.addKey (.ok ((readOldStart? value).getD {}))
  | '+' =>
    match sortChoices.refusal? "--sort" value with
    | some refusal => .error refusal
    | none => .ok (((sortChoices.choose value).toOption.map request.share).getD request)
  | '=' =>
    if value.isEmpty then request.checkBy 'c'
    else
      match checkChoices.refusal? "--check" value with
      | some refusal => .error refusal
      | none => request.checkBy ((checkChoices.choose value).toOption.getD 'c')
  | 'c' => request.checkBy 'c'
  | 'C' => request.checkBy 'C'
  | 't' =>
    match readSeparator value with
    | .error message => .error { message, hinted := false }
    | .ok b =>
      if request.separator.any (· != b) then .error { message := "incompatible tabs", hinted := false }
      else .ok { request with separator := some b }
  | 'o' => once request.output "output files" value { request with output := some value }
  | '%' => once request.compressor "compress programs" value { request with compressor := some value }
  | '&' => once request.randomSource "random sources" value { request with randomSource := some value }
  | 'S' => accept (sizeRefusal? "-S" value ['E', 'g', 'G', 'k', 'K', 'm', 'M', 'P', 't', 'T', 'Y', 'Z'] ['b', '%'])
  | '!' =>
    if number? value == some 0 then .error { message := "number in parallel must be nonzero", hinted := false }
    else
      match sizeRefusal? "--parallel" value [] [] with
      | some refusal => if (number? value).isSome then .ok request else .error refusal
      | none => .ok request
  | '#' =>
    if (number? value).any (· < 2) then
      .error {
        message := "invalid --batch-size argument " ++ shown value
        also := ["minimum --batch-size argument is '2'"], hinted := false }
    else accept (sizeRefusal? "--batch-size" value [] [])
  | '@' => .ok { request with list := some value }
  | 's' => .ok { request with stable := true }
  | 'u' => .ok { request with unique := true }
  | 'm' => .ok { request with merging := true }
  | 'z' => .ok { request with mark := 0 }
  | '~' => .ok { request with reported := true }
  | letter => .ok (if isKeyLetter letter then request.share letter else request)

def dressedKeys (request : SortRequest) : List SortKey :=
  let shared := request.shared
  let dressed := request.keys.map fun key =>
    if key.isPlain && !key.has 'r' then
      { key with letters := shared.letters, skipStart := shared.skipStart, skipStop := shared.skipStop }
    else key
  if request.keys.isEmpty && !shared.isPlain then [shared] else dressed

def isShared (request : SortRequest) : Bool := request.keys.isEmpty && !request.shared.isPlain

def order (request : SortRequest) : SortOrder where
  keys := request.dressedKeys
  separator := request.separator
  stable := request.stable || request.unique
  reverse := request.shared.has 'r'

def fault? (request : SortRequest) : Option Refusal :=
  match request.dressedKeys.find? SortKey.isContradictory with
  | some key =>
    some (incompatible
      (SortKey.shownLetters { key with skipStart := false, skipStop := false, letters := key.letters.filter (· != 'r') }))
  | none =>
    if request.reported && (request.check.isSome || request.output.isSome) then
      some (incompatible (String.singleton (request.check.getD 'o') ++ " --debug"))
    else none

end SortRequest

def readNameList (list : String) (data : Bytes) : Except String (List String) := do
  let names := (recordsOf 0 data).map rawText
  if names.isEmpty then .error ("no input from " ++ shownPath list)
  for (name, index) in names.zipIdx do
    if name == "-" then .error ("when reading file names from stdin, no file name of " ++ shownPath name ++ " allowed")
    if name.isEmpty then .error (pathText list ++ ":" ++ toString (index + 1) ++ ": invalid zero-length file name")
  return names

def withReadable (invocation : Invocation) (operands : List String) (next : Program) : Program :=
  .look fun files =>
    let obstacle? (path : String) : Option Failure :=
      if path == "-" then none
      else
        match files.openRead invocation.viewer path with
        | .ok _ => none
        | .error failure => some failure
    match operands.findSome? fun path => (obstacle? path).map (path, ·) with
    | some (path, failure) => fail invocation ("cannot read: " ++ pathText path ++ ": " ++ reason failure) 2
    | none => next

def gatherFiles (invocation : Invocation) (next : List Bytes → Program) (pieces : List Bytes) : List String → Program
  | [] => next pieces.reverse
  | operand :: rest =>
    slurp invocation operand fun answer =>
      match answer with
      | .ok data => gatherFiles invocation next (data :: pieces) rest
      | .error text =>
        let isOpen := text == Errno.isDirectory.text || text == Errno.badDescriptor.text
        fail invocation ((if isOpen then "read failed: " else "open failed: ") ++ pathText operand ++ ": " ++ text) 2

def checkOrder (invocation : Invocation) (request : SortRequest) (silent : Bool) (name : String) (lines : List Bytes) :
    Program :=
  match lines.map request.order.row with
  | [] => .exitWith 0
  | first :: rest =>
    match request.order.disorder? request.unique 2 first rest with
    | none => .exitWith 0
    | some (number, (_, line)) =>
      if silent then .exitWith 1
      else
        .write Program.errorDescriptor
          (rawBytes (invocation.name ++ ": " ++ name ++ ":" ++ toString number ++ ": disorder: ") ++ line ++ [request.mark])
          fun _ => .exitWith 1

def withOutput (invocation : Invocation) (path : Option String) (next : (Bytes → Program) → Program) : Program :=
  match path with
  | none =>
    next fun data =>
      .write Program.outputDescriptor data fun answer =>
        match answer with
        | none => .exitWith 0
        | some e =>
          let cause := if heldBack ≤ data.length then "write failed" else "fflush failed"
          warn invocation (cause ++ ": 'standard output': " ++ e.text) fun _ => fail invocation "write error" 2
  | some path =>
    let opened (files : FileSystem) : Except Failure (FileSystem × OpenFile) :=
      files.openWrite invocation.viewer .append path
    .files (fun files => ((opened files).map (·.1)).toOption.getD files) fun files =>
      match opened files with
      | .error failure => fail invocation ("open failed: " ++ pathText path ++ ": " ++ reason failure) 2
      | .ok (_, { node := .pipe descriptor, .. }) =>
        next fun data =>
          .write descriptor data fun answer =>
            match answer with
            | none => .exitWith 0
            | some e => fail invocation ("write failed: " ++ pathText path ++ ": " ++ e.text) 2
      | .ok _ =>
        next fun data =>
          .files (fun files => (files.writeFile invocation.viewer path data).toOption.getD files) fun files =>
            match files.writeFile invocation.viewer path data with
            | .ok _ => .exitWith 0
            | .error failure => fail invocation ("open failed: " ++ pathText path ++ ": " ++ reason failure) 2

def sortFiles (invocation : Invocation) (request : SortRequest) (operands : List String) : Program :=
  let order := request.order
  withReadable invocation operands <|
    withOutput invocation request.output fun deliver =>
      gatherFiles invocation (fun pieces =>
        let rows := pieces.map fun data => (recordsOf request.mark data).map order.row
        let sorted :=
          if request.merging then order.merge (rows.foldl (· + ·.length) 0 + 1) rows []
          else rows.flatten.mergeSort fun a b => order.compareRows a b != .gt
        let sorted := if request.unique then order.distinctRows [] sorted else sorted
        let lines := sorted.map (·.2)
        deliver (if request.reported then lines.flatMap (order.reported (request.stable || request.unique))
          else unrecords request.mark lines)) [] operands

def answerSort (invocation : Invocation) (request : SortRequest) (operands : List String) : Program :=
  match request.fault? with
  | some refusal => refuseFor invocation refusal 2
  | none =>
    let rec tellAll (next : Unit → Program) : List String → Program
      | [] => next ()
      | text :: rest => warn invocation text fun _ => tellAll next rest
    let doubts :=
      if request.reported then
        "text ordering performed using simple byte comparison" ::
          request.order.doubts request.shared request.isShared request.unique
      else []
    tellAll (fun _ =>
      match request.check with
      | none => sortFiles invocation request (operandsOrInput operands)
      | some letter =>
        match operands with
        | _ :: extra :: _ =>
          fail invocation ("extra operand " ++ shownPath extra ++ " not allowed with -" ++ String.singleton letter) 2
        | operands =>
          if request.output.isSome then refuseFor invocation (incompatible (String.ofList [letter, 'o'])) 2
          else
            gatherFiles invocation (fun pieces =>
              checkOrder invocation request (letter = 'C') (operands.headD "-") (pieces.flatMap (recordsOf request.mark)))
              [] (operandsOrInput operands)) doubts

def sort : Utility := fun invocation =>
  withRequest sortTable invocation 2 ({} : SortRequest) SortRequest.adopt fun request operands =>
    match request.list, operands with
    | none, _ => answerSort invocation request operands
    | some _, extra :: _ =>
      refuseFor invocation {
        message := "extra operand " ++ shownPath extra
        details := ["file operands cannot be combined with --files0-from"] } 2
    | some list, [] =>
      slurp invocation list fun answer =>
        match answer with
        | .error text =>
          if text == Errno.isDirectory.text then fail invocation ("cannot read file names from " ++ shownPath list) 2
          else fail invocation ("open failed: " ++ pathText list ++ ": " ++ text) 2
        | .ok data =>
          match readNameList list data with
          | .error text => fail invocation text 2
          | .ok names => answerSort invocation request names

end PipeShell.Utility
