import PipeShell.Text.Regex.Parser
import PipeShell.Utility.Basic

/-! # Utilities that change lines

Programs that break lines, turn them around or join them. -/

set_option autoImplicit false

namespace PipeShell.Utility

open PipeShell.System

def lastMatch (matchAt? : Nat → Option Nat) : Nat → Option (Nat × Nat)
  | 0 => none
  | place + 1 =>
    match matchAt? place with
    | some stop => some (place, stop)
    | none => lastMatch matchAt? place

/-- The pieces between separators, the last one first. A separator belongs to the
piece in front of it, or behind it if `inFront`. `find` gives the last separator
that ends at a place or in front of it. -/
def backwardPieces (inFront : Bool) (find : Nat → Option (Nat × Nat)) (text : Array UInt8) :
    Nat → Nat → Nat → List Bytes → List Bytes
  | 0, _, past, done => ((text.extract 0 past).toList :: done).reverse
  | bound + 1, limit, past, done =>
    match find limit with
    | none => ((text.extract 0 past).toList :: done).reverse
    | some (start, stop) =>
      let cut := if inFront then start else stop
      backwardPieces inFront find text bound start cut ((text.extract cut past).toList :: done)

/-- Where a separator of fixed bytes ends that starts at a place, if it does and ends
within the limit. -/
def fixedMatch? (separator text : Array UInt8) (limit place : Nat) : Option Nat :=
  let stop := place + separator.size
  let agrees := (List.range separator.size).all fun index => separator[index]? == text[place + index]?
  if stop ≤ limit && agrees then some stop else none

def separatorDialect : Text.RegexDialect :=
  { bareRepeats := true, counts := false, classes := false, emptyRanges := true, severalLines := true }

def separatorFinder (isRegex : Bool) (word : String) : Except String (Array UInt8 → Nat → Option (Nat × Nat)) :=
  let bytes := rawBytes word
  if isRegex then
    if bytes.isEmpty then .error "separator cannot be empty"
    else
      match Text.Regex.parse separatorDialect bytes with
      | .error e => .error e.message
      | .ok (regex, _) =>
        .ok fun text limit =>
          let front := text.extract 0 limit
          lastMatch (fun place => (Text.Regex.longest? false front regex place).map (·.1)) limit
  else
    let separator := (if bytes.isEmpty then [0] else bytes).toArray
    .ok fun text limit => lastMatch (fixedMatch? separator text limit) limit

def backwardBlock : Nat := 8192

def seekInput (position : Nat) (next : Unit → Program) : Program :=
  .inspect Program.inputDescriptor fun found =>
    match found.bind (·.2) with
    | some file => if file.node.isFile then .seek Program.inputDescriptor position fun _ => next () else next ()
    | none => next ()

/-- All bytes of a file, or of the input for `-`: if that is a file too, then it is read
from its end to its beginning, and what was read last is in front of its position. -/
def slurpBackward (invocation : Invocation) (operand : String) (next : Except String Bytes → Program) : Program :=
  if operand == "-" then
    seekInput 0 fun _ =>
      slurp invocation operand fun answer =>
        match answer with
        | .ok data =>
          if data.length ≤ backwardBlock then next answer else seekInput backwardBlock fun _ => next answer
        | answer => next answer
  else slurp invocation operand next

def reverseLines : Utility := fun invocation =>
  let table : OptionTable := {
    flags := ['b', 'r'], valued := ['s'], long := [("before", 'b'), ("regex", 'r'), ("separator", 's')] }
  withOptions table invocation 1 fun options =>
    match separatorFinder (options.has 'r') ((options.value? 's').getD "\n") with
    | .error text => fail invocation text
    | .ok find =>
      let reversed (data : Bytes) : Bytes :=
        let text := data.toArray
        (backwardPieces (options.has 'b') (find text) text (text.size + 1) text.size text.size []).flatten
      let rec go (failed : Bool) : List String → Program
        | [] => .exitWith (if failed then 1 else 0)
        | operand :: rest =>
          slurpBackward invocation operand fun answer =>
            match answer with
            | .ok data => emit invocation (reversed data) fun _ => go failed rest
            | .error text =>
              let text :=
                if text == Errno.isDirectory.text || text == Errno.badDescriptor.text then
                  pathText (if operand == "-" then "standard input" else operand) ++ ": read error: " ++ text
                else "failed to open " ++ shownPath operand ++ " for reading: " ++ text
              warn invocation text fun _ => go true rest
      go false (operandsOrInput options.operands)

/-- Turns the lines of what was opened around until there is no line left, or one
that is no text. The number of lines so far is handed on when the text ends. -/
def reverseOpened (invocation : Invocation) (next : Option (Nat × Errno) → Program) :
    Nat → Source → List Bytes → Nat → Program
  | 0, _, _, _ => next none
  | bound + 1, source, unfinished, number =>
    let isText (line : Bytes) : Bool := line.all (· < 128)
    source.read Program.blockSize fun source answer =>
      match answer with
      | .error e => next (some (number, e))
      | .ok data =>
        let parts := if data.isEmpty then [(unfinished.reverse.flatten)] else ((data.splitOn 10).headD [] :: unfinished).reverse.flatten :: (data.splitOn 10).tail
        let complete := parts.dropLast
        let tail := parts.getLastD []
        let good := complete.takeWhile isText
        let output := unlines (good.map List.reverse)
        if good.length < complete.length then
          emit invocation output fun _ => next (some (number + good.length, .invalidText))
        else if data.isEmpty then
          if isText tail then emit invocation tail.reverse fun _ => next none else next (some (number, .invalidText))
        else
          emit invocation output fun _ =>
            reverseOpened invocation next bound source (if tail.isEmpty then [] else [tail]) (number + good.length)

def reverseChars : Utility := fun invocation =>
  withOptions { flags := ['0'], long := [("zero", '0')] } invocation 1 fun options =>
    let rec go (failed : Bool) : List String → Program
      | [] => .exitWith (if failed then 1 else 0)
      | operand :: rest =>
        let finish (failure : Option (Nat × Errno)) : Program :=
          match failure with
          | none => go failed rest
          | some (number, e) =>
            warn invocation ((if operand == "-" then "stdin" else operand) ++ ": " ++ toString number ++ ": " ++ e.text)
              fun _ => go true rest
        let path := if operand == "-" && !options.operands.isEmpty then "./-" else operand
        openOperand invocation path
          (fun text => warn invocation ("cannot open " ++ operand ++ ": " ++ text) fun _ => go true rest)
          fun source => reverseOpened invocation finish Program.lifetime source [] 0
    go false (operandsOrInput options.operands)

structure FoldStyle where
  width : Nat
  /-- Whether lines are broken behind blanks if they have any. -/
  byWords : Bool
  byBytes : Bool

namespace FoldStyle

def advance (style : FoldStyle) (column : Nat) (b : UInt8) : Nat :=
  if style.byBytes then column + 1
  else
    match b with
    | 8 => column - 1
    | 13 => 0
    | 9 => column + 8 - column % 8
    | _ => column + 1

/-- The pieces of a line, of which `column` columns are taken by the bytes in `held`,
the last one first. Every step takes a byte or ends a piece. -/
def pieces (style : FoldStyle) (done : List Bytes) (column : Nat) (held : Bytes) : Nat → Bytes → List Bytes
  | 0, rest => ((held.reverse ++ rest) :: done).reverse
  | _ + 1, [] => (held.reverse :: done).reverse
  | bound + 1, b :: rest =>
    let next := style.advance column b
    let isBlank (b : UInt8) : Bool := b = 32 || b = 9
    if next ≤ style.width then pieces style done next (b :: held) bound rest
    else if style.byWords && held.any isBlank then
      let word := held.takeWhile (!isBlank ·)
      let taken := word.reverse.foldl style.advance 0
      pieces style ((held.drop word.length).reverse :: done) taken word bound (b :: rest)
    else if held.isEmpty then pieces style done next [b] bound rest
    else pieces style (held.reverse :: done) 0 [] bound (b :: rest)

end FoldStyle

def foldLines : Utility := fun invocation =>
  let digits := ['0', '1', '2', '3', '4', '5', '6', '7', '8', '9']
  let rule : QuantityRule := { complaint := "invalid number of columns", least := 1, most := largestCount - 9 }
  let widthOf (letter : Char) (value : String) : String := if letter = 'w' then value else String.singleton letter ++ value
  let table : OptionTable := {
    flags := ['s', 'b'], valued := ['w'], optional := digits, long := [("bytes", 'b'), ("spaces", 's'), ("width", 'w')]
    check := fun letter value => if letter = 'w' || letter.isDigit then rule.refusal? (widthOf letter value) else none }
  withOptions table invocation 1 fun options =>
    let widths := options.given.filterMap fun (letter, value) =>
      if letter = 'w' || letter.isDigit then some (widthOf letter value) else none
    let style : FoldStyle := {
      width := (rule.value 80 widths.getLast?).toNat, byWords := options.has 's', byBytes := options.has 'b' }
    let step : LineStep Unit := fun _ line ended =>
      (((), ((style.pieces [] 0 [] (2 * line.length + 2) line).intersperse [10]).flatten ++ if ended then [10] else []))
    eachLine invocation 10 step (fun operand text => pathText operand ++ ": " ++ text)
      (fun _ failed => .exitWith (if failed then 1 else 0)) () false (operandsOrInput options.operands)

def pasteMarks? (word : String) : Option (List Bytes) :=
  let rec read : Bytes → Option (List Bytes)
    | [92] => none
    | 92 :: letter :: rest =>
      let mark : Bytes :=
        match Char.ofNat letter.toNat with
        | '0' => []
        | 'b' => [8]
        | 'f' => [12]
        | 'n' => [10]
        | 'r' => [13]
        | 't' => [9]
        | 'v' => [11]
        | _ => [letter]
      (read rest).map (mark :: ·)
    | b :: rest => (read rest).map ([b] :: ·)
    | [] => some []
  if word.isEmpty then some [[]] else read (rawBytes word)

def pasteRow (marks : List Bytes) (mark : UInt8) (items : List Bytes) : Bytes :=
  (items.zipIdx.flatMap fun (item, index) =>
    (if index = 0 then [] else (marks[(index - 1) % marks.length]?).getD []) ++ item) ++ [mark]

def dealt (hands : Nat) (lines : List Bytes) : List (List Bytes) :=
  (List.range hands).map fun hand => (lines.zipIdx.filter fun (_, index) => index % hands = hand).map (·.1)

/-- The lines of files side by side. Whoever reads the input more than once takes its
lines in turns. -/
def pasteColumns (input : List Bytes) (files : List (Option (List Bytes))) : List (List Bytes) :=
  let rec go : List (List Bytes) → List (Option (List Bytes)) → List (List Bytes)
    | _, [] => []
    | hands, some lines :: rest => lines :: go hands rest
    | hand :: hands, none :: rest => hand :: go hands rest
    | [], none :: rest => [] :: go [] rest
  go (dealt (files.countP Option.isNone) input) files

def paste : Utility := fun invocation =>
  let table : OptionTable := {
    flags := ['s', 'z'], valued := ['d'], long := [("serial", 's'), ("delimiters", 'd'), ("zero-terminated", 'z')] }
  withOptions table invocation 1 fun options =>
    match pasteMarks? ((options.value? 'd').getD "\t") with
    | none =>
      fail invocation ("delimiter list ends with an unescaped backslash: " ++ pathText ((options.value? 'd').getD ""))
    | some marks =>
    let mark := lineMark options
    let serial := options.has 's'
    let operands := operandsOrInput options.operands
    let rec gather (done : List (Option (List Bytes))) (input : List Bytes) (failed : Bool) : List String → Program
      | [] =>
        let output :=
          if serial then done.reverse.flatMap fun lines => pasteRow marks mark (lines.getD [])
          else
            let columns := (pasteColumns input done.reverse).map List.toArray
            let rows := columns.foldl (fun rows column => max rows column.size) 0
            (List.range rows).flatMap fun index =>
              pasteRow marks mark (columns.map fun column => (column[index]?).getD [])
        emitAll invocation output (if failed then 1 else 0)
      | operand :: rest =>
        let take (data : Bytes) (failed : Bool) : Program :=
          let lines := recordsOf mark data
          if operand == "-" && !serial then gather (none :: done) (input ++ lines) failed rest
          else gather (some lines :: done) input failed rest
        readOperand invocation operand ([] : List Bytes) (fun pieces data resume => resume (data :: pieces))
          (fun pieces failure =>
            let data := pieces.reverse.flatten
            match failure with
            | none => take data failed
            | some e => warn invocation (pathText operand ++ ": " ++ e.text) fun _ => take data true)
          (fun text =>
            warn invocation (pathText operand ++ ": " ++ text) fun _ =>
              if serial then gather done input true rest else gather (some [] :: done) input true rest)
    .look fun files =>
      let missing? (path : String) : Option Failure :=
        if serial || path == "-" then none
        else
          match files.openRead invocation.viewer path with
          | .ok _ => none
          | .error failure => some failure
      match operands.findSome? fun path => (missing? path).map (path, ·) with
      | some (path, failure) => fail invocation (pathText path ++ ": " ++ reason failure)
      | none => gather [] [] false operands

end PipeShell.Utility
