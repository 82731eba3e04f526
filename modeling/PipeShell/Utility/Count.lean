import PipeShell.System.Directories
import PipeShell.Utility.Basic

/-! # Counting

Lines, words and bytes of files, in columns that are as wide as the greatest
number may get. -/

set_option autoImplicit false

namespace PipeShell.Utility

open PipeShell.System

structure Counts where
  lines : Nat := 0
  words : Nat := 0
  chars : Nat := 0
  longest : Nat := 0
  deriving DecidableEq, Repr

namespace Counts

def longestLine (data : Bytes) : Nat :=
  let (longest, last) := data.foldl (fun ((longest : Nat), (place : Nat)) b =>
    if b = 10 || b = 12 || b = 13 then (max longest place, 0)
    else if b = 9 then (longest, place + 8 - place % 8)
    else if isPrintableByte b then (longest, place + 1)
    else (longest, place)) (0, 0)
  max longest last

/-- The counts of a file. A word has at least one byte that can be printed. -/
def ofBytes (data : Bytes) : Counts :=
  let (words, _) := data.foldl (fun (words, inside) b =>
    if isSpaceByte b then (words, false)
    else if inside || !isPrintableByte b then (words, inside)
    else (words + 1, true)) (0, false)
  { lines := data.count 10, words, chars := data.length, longest := longestLine data }

def add (a b : Counts) : Counts :=
  ⟨a.lines + b.lines, a.words + b.words, a.chars + b.chars, max a.longest b.longest⟩

def chosen (options : Options) (counts : Counts) : List Nat :=
  let all := !(['l', 'w', 'c', 'm', 'L'].any options.has)
  (if all || options.has 'l' then [counts.lines] else []) ++
    (if all || options.has 'w' then [counts.words] else []) ++
    (if options.has 'm' then [counts.chars] else []) ++
    (if all || options.has 'c' then [counts.chars] else []) ++
    (if options.has 'L' then [counts.longest] else [])

end Counts

/-- The width of the numbers: enough for the sizes of all files, and at least
seven where a size is not known beforehand. -/
def countWidth (invocation : Invocation) (input : Option OpenFile) (files : FileSystem) (operands : List String)
    (single : Bool) : Nat :=
  if single && operands.length = 1 then 1
  else
    let size (node : Node) : Option Nat := (files.fileOf? node).map fun file => file.content.length
    let sizes := operands.map fun operand =>
      if operand == "-" then input.bind fun file => size file.node
      else
        match files.stat invocation.viewer operand with
        | .ok (_, node) => size node
        | .error _ => some 0
    max (toString (sizes.foldl (· + ·.getD 0) 0)).length (if sizes.any Option.isNone then 7 else 1)

/-- A name in a list of files, or the list as a whole if that is all there is. -/
structure CountItem where
  operand : String
  /-- The name that is shown; nothing for the input that was not named. -/
  name : Option String
  /-- Why the item is left out, if it is. -/
  fault : Option String := none

def listedItems (list : String) (names : List String) : List CountItem :=
  names.zipIdx.map fun (name, index) =>
    { operand := name, name := some name
      fault :=
        if name.isEmpty then some (pathText list ++ ":" ++ toString (index + 1) ++ ": invalid zero-length file name")
        else if list == "-" && name == "-" then
          some ("when reading file names from stdin, no file name of " ++ shownPath name ++ " allowed")
        else none }

def countItems (invocation : Invocation) (options : Options) (width : Nat) (items : List CountItem) : Program :=
  let row (counts : Counts) (name : Option String) : Bytes :=
    let numbers := (Counts.chosen options counts).map fun number => padLeft width (toString number)
    rawBytes (String.intercalate " " numbers ++ (name.elim "" (" " ++ ·)) ++ "\n")
  let rec go (total : Counts) (failed : Bool) : List CountItem → Program
    | [] =>
      let code : UInt8 := if failed then 1 else 0
      if 1 < items.length then emit invocation (row total (some "total")) (fun _ => .exitWith code) 1 true
      else .exitWith code
    | item :: rest =>
      match item.fault with
      | some text => warn invocation text fun _ => go total true rest
      | none =>
        slurp invocation item.operand fun answer =>
          match answer with
          | .ok data =>
            let counts := Counts.ofBytes data
            emit invocation (row counts item.name) (fun _ => go (total.add counts) failed rest) 1 true
          | .error text =>
            warn invocation (pathText (item.name.getD "standard input") ++ ": " ++ text) fun _ =>
              if text == Errno.isDirectory.text then emit invocation (row {} item.name) (fun _ => go total true rest) 1 true
              else go total true rest
  go {} false items

def count : Utility := fun invocation =>
  let table : OptionTable := {
    flags := ['l', 'w', 'c', 'm', 'L'], valued := ['=']
    long := [("bytes", 'c'), ("chars", 'm'), ("lines", 'l'), ("words", 'w'), ("files0-from", '='), ("max-line-length", 'L')] }
  withOptions table invocation 1 fun options =>
    let single := (Counts.chosen options {}).length = 1
    .inspect Program.inputDescriptor fun found =>
      let input := found.bind (·.2)
      match options.value? '=' with
      | none =>
        let operands := operandsOrInput options.operands
        let items := operands.map fun operand =>
          { operand, name := if options.operands.isEmpty then none else some operand
            fault := if operand.isEmpty then some "invalid zero-length file name" else none : CountItem }
        .look fun files => countItems invocation options (countWidth invocation input files operands single) items
      | some list =>
        match options.operands with
        | extra :: _ =>
          refuseFor invocation {
            message := "extra operand " ++ shownPath extra
            details := ["file operands cannot be combined with --files0-from"] }
        | [] =>
          openOperand invocation list
            (fun text => fail invocation ("cannot open " ++ shownPath list ++ " for reading: " ++ text)) fun source =>
              source.readRest fun data failure =>
                let names := (recordsOf 0 data).map rawText
                let isKnown : Bool :=
                  match source with
                  | .opened _ => true
                  | .descriptor _ => input.isSome
                match failure with
                | some e => fail invocation (pathText list ++ ": read error: " ++ e.text)
                | none =>
                  .look fun files =>
                    let width :=
                      if isKnown && !names.isEmpty then countWidth invocation input files names single else 1
                    countItems invocation options width (listedItems list names)

end PipeShell.Utility
