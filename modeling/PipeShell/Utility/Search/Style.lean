import PipeShell.Utility.Basic
import PipeShell.Utility.Search.Query

/-! # Showing lines that were found

What is shown of a line that is found, and of the lines around it, is decided line
by line. -/

set_option autoImplicit false

namespace PipeShell.Utility

/-- What is done with files that are no text. -/
inductive BinaryPlan where
  /-- A match is told of but not shown. -/
  | told
  | searched
  | skipped
  deriving DecidableEq, Repr

structure SearchStyle where
  query : Query
  numbered : Bool
  offsets : Bool
  /-- Only the parts that match are shown. -/
  onlyParts : Bool
  /-- Only the number of lines is shown. -/
  counting : Bool
  /-- Nothing but whether there was a line, or the name of the file, is wanted. -/
  silent : Bool
  /-- How many lines in front of a line that is found are shown too, if that was
  said. -/
  before : Option Nat
  after : Option Nat
  /-- What stands between lines that do not follow each other. -/
  separator : Option String
  limit : Option Nat
  binaryPlan : BinaryPlan
  mark : UInt8
  /-- The text of lines begins at a tab. -/
  aligned : Bool
  nullNames : Bool
  coloured : Bool

structure SearchState where
  number : Nat := 0
  offset : Nat := 0
  found : Nat := 0
  /-- The lines before that may have to be shown, the last one first. -/
  recent : List (Nat × Nat × Bytes) := []
  /-- How many lines behind the last one that was found are still to be shown. -/
  following : Nat := 0
  /-- The number of the last line that was shown. -/
  lastShown : Nat := 0
  /-- How many bytes there were up to the end of the last line that was found. -/
  behindFound : Nat := 0
  /-- For a file that is no text, how many lines had been found before that was
  known. -/
  binary : Option Nat := none
  /-- Whether the rest does not matter any more. -/
  finished : Bool := false
  /-- Whether a line was found in any file. -/
  used : Bool := false
  /-- The width of numbers where they are aligned. -/
  width : Nat := 0

namespace SearchStyle

def paint (style : SearchStyle) (colour : String) (data : Bytes) : Bytes :=
  if style.coloured then rawBytes ("\x1b[" ++ colour ++ "m\x1b[K") ++ data ++ rawBytes "\x1b[m\x1b[K" else data

def sign (style : SearchStyle) (text : String) : Bytes := style.paint "36" (rawBytes text)

def named (style : SearchStyle) (name : String) (separator : String) : Bytes :=
  style.paint "35" (rawBytes name) ++ if style.nullNames then [0] else style.sign separator

def listed (style : SearchStyle) (name : String) : Bytes :=
  style.paint "35" (rawBytes name) ++ [if style.nullNames then 0 else 10]

def lit (style : SearchStyle) (data : Bytes) : Bytes := style.paint "01;31" data

/-- What stands in front of a line, or of a part of it, that is not empty or is. -/
def lead (style : SearchStyle) (name : Option String) (state : SearchState) (separator : String)
    (number offset : Nat) (isEmpty : Bool) : Bytes :=
  let count (value : Nat) : Bytes :=
    style.paint "32" (rawBytes (padLeft (if style.aligned then state.width else 0) (toString value))) ++
      style.sign separator
  (name.elim [] fun name => style.named name separator) ++ (if style.numbered then count number else []) ++
    (if style.offsets then count offset else []) ++
    if style.aligned && (name.isSome || style.numbered || style.offsets) && !isEmpty then [9] else []

def litLine (style : SearchStyle) (line : Bytes) : Bytes :=
  let text := line.toArray
  let (pieces, place) := (style.query.parts text (line.length + 1) 0).foldl
    (fun ((pieces : List Bytes), (place : Nat)) (start, stop) =>
      (style.lit (text.extract start stop).toList :: (text.extract place start).toList :: pieces, stop)) ([], 0)
  pieces.reverse.flatten ++ line.drop place

def row (style : SearchStyle) (name : Option String) (state : SearchState) (isFound : Bool) (number offset : Nat)
    (line : Bytes) : Bytes :=
  let isMatch := isFound != style.query.inverted
  if style.onlyParts then
    if isMatch then
      let text := line.toArray
      let separator := if style.query.inverted then "-" else ":"
      (style.query.parts text (line.length + 1) 0).flatMap fun (start, stop) =>
        style.lead name state separator number (offset + start) false ++
          style.lit (text.extract start stop).toList ++ [style.mark]
    else []
  else
    style.lead name state (if isFound then ":" else "-") number offset line.isEmpty ++
      (if isMatch && style.coloured then style.litLine line else line) ++ [style.mark]

def step (style : SearchStyle) (name : Option String) (state : SearchState) (line : Bytes) : SearchState × Bytes :=
  let number := state.number + 1
  let moved := { state with number, offset := state.offset + line.length + 1 }
  let quiet := style.counting || style.silent || state.binary.isSome
  let isFull := style.limit.any (· ≤ state.found)
  if !isFull && style.query.wants line.toArray then
    let found := state.found + 1
    let enough := style.limit.any (· ≤ found)
    let stops := (style.silent || state.binary.isSome) && !style.counting
    let moved := { moved with behindFound := moved.offset, used := true }
    if quiet then ({ moved with found, finished := stops || enough }, [])
    else
      let fresh := (state.recent.reverse.filter fun (number, _) => state.lastShown < number)
      let first := (fresh.head?.map (·.1)).getD number
      let hasContext := style.before.isSome || style.after.isSome
      let isAdjacent := state.lastShown != 0 && state.lastShown + 1 = first
      let separator : Bytes :=
        match style.separator with
        | some text => if hasContext && state.used && !isAdjacent then style.sign text ++ [10] else []
        | none => []
      let context := fresh.flatMap fun (number, offset, line) => style.row name state false number offset line
      let following := style.after.getD 0
      ({ moved with found, recent := [], following, lastShown := number, finished := enough && following = 0 },
        separator ++ context ++ style.row name state true number state.offset line)
  else if quiet then (moved, [])
  else if state.following != 0 then
    ({ moved with following := state.following - 1, lastShown := number, finished := isFull && state.following = 1 },
      style.row name state false number state.offset line)
  else
    let recent := ((number, state.offset, line) :: state.recent).take (style.before.getD 0)
    ({ moved with recent, finished := isFull }, [])

def steps (style : SearchStyle) (name : Option String) :
    SearchState → List Bytes → List Bytes → SearchState × Bytes
  | state, [], output => (state, output.reverse.flatten)
  | state, line :: rest, output =>
    if state.finished then (state, output.reverse.flatten)
    else
      let (state, piece) := style.step name state line
      steps style name state rest (piece :: output)

/-- More of a file, with what is known afterwards about whether it is text. Zero bytes
end lines in a file that is none. -/
def admitted (style : SearchStyle) (state : SearchState) (data : Bytes) : SearchState × Bytes :=
  let isNew := state.binary.isNone && style.mark != 0 && style.binaryPlan != .searched && data.contains 0
  let state :=
    if !isNew then state
    else if style.binaryPlan == .skipped then { state with found := 0, finished := true }
    else { state with binary := some state.found }
  (state, if state.binary.isSome then data.map fun b => if b = 0 then style.mark else b else data)

def tellsBinary (style : SearchStyle) (state : SearchState) : Bool :=
  !style.counting && !style.silent && state.binary.any (· < state.found)

end SearchStyle

end PipeShell.Utility
