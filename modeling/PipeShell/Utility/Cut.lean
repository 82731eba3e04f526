import PipeShell.Utility.Basic

/-! # Cutting lines

Parts of lines are chosen by a list of positions, of bytes or of fields, such as
`1,3-5`. -/

set_option autoImplicit false

namespace PipeShell.Utility

abbrev PositionRange := Nat × Option Nat

inductive PositionError where
  | zero
  | malformed (text : String)
  | tooLarge (digits : String)
  | decreasing
  | noEnds
  | tooManyEnds
  deriving DecidableEq, Repr

def PositionError.message (fields : Bool) : PositionError → String
  | .zero => if fields then "fields are numbered from 1" else "byte/character positions are numbered from 1"
  | .malformed text => (if fields then "invalid field value " else "invalid byte/character position ") ++ shown text
  | .tooLarge digits => (if fields then "field number " else "byte/character offset ") ++ shown digits ++ " is too large"
  | .decreasing => "invalid decreasing range"
  | .noEnds => "invalid range with no endpoint: -"
  | .tooManyEnds => if fields then "invalid field range" else "invalid byte or character range"

/-- The part of a list of positions that is being read. -/
structure PositionDraft where
  /-- The start of the range, once its dash is read. -/
  start : Option Nat := none
  hasStart : Bool := false
  /-- The digits of the number that is being read. -/
  digits : String := ""
  value : Nat := 0

namespace PositionDraft

def finish (draft : PositionDraft) : Except PositionError PositionRange :=
  match draft.start with
  | none => if draft.value = 0 then .error .zero else .ok (draft.value, some draft.value)
  | some start =>
    if draft.digits.isEmpty then
      if draft.hasStart then .ok (start, none) else .error .noEnds
    else if draft.value < start then .error .decreasing
    else .ok (start, some draft.value)

def dash (draft : PositionDraft) : Except PositionError PositionDraft :=
  if draft.start.isSome then .error .tooManyEnds
  else if !draft.digits.isEmpty && draft.value = 0 then .error .zero
  else
    .ok { start := some (if draft.digits.isEmpty then 1 else draft.value), hasStart := !draft.digits.isEmpty }

end PositionDraft

def readPositions (draft : PositionDraft) (done : List PositionRange) : List Char → Except PositionError (List PositionRange)
  | [] => do return ((← draft.finish) :: done).reverse
  | c :: rest =>
    if c = '-' then
      match draft.dash with
      | .ok draft => readPositions draft done rest
      | .error e => .error e
    else if c = ',' || c = ' ' || c = '\t' then
      match draft.finish with
      | .ok range => readPositions {} (range :: done) rest
      | .error e => .error e
    else if c.isDigit then
      let value := draft.value * 10 + (c.toNat - '0'.toNat)
      let digits := draft.digits.push c
      if largestCount ≤ Int.ofNat value then .error (.tooLarge (digits ++ String.ofList (rest.takeWhile Char.isDigit)))
      else readPositions { draft with value, digits } done rest
    else .error (.malformed (String.ofList (c :: rest)))

def selects (ranges : List PositionRange) (position : Nat) : Bool :=
  ranges.any fun (low, high) => low ≤ position && high.elim true (position ≤ ·)

def begins (ranges : List PositionRange) (position : Nat) : Bool :=
  ranges.any (·.1 = position) && !ranges.any fun (low, high) => low < position && high.elim true (position ≤ ·)

structure CutStyle where
  ranges : List PositionRange
  complement : Bool
  /-- The byte between fields; nothing if bytes are cut out. -/
  separator : Option UInt8
  /-- What is written between fields or ranges. -/
  glue : Option Bytes
  onlySeparated : Bool
  mark : UInt8

namespace CutStyle

def chooses (style : CutStyle) (position : Nat) : Bool := selects style.ranges position != style.complement

def pick (style : CutStyle) (separator : UInt8) (fields : List Bytes) : Bytes :=
  let chosen := (fields.zipIdx.filter fun (_, index) => style.chooses (index + 1)).map (·.1)
  (chosen.intersperse (style.glue.getD [separator])).flatten

def step (style : CutStyle) : LineStep Unit := fun _ line _ =>
  match style.separator with
  | some separator =>
    if !line.contains separator then ((), if style.onlySeparated then [] else line ++ [style.mark])
    else ((), style.pick separator (line.splitOn separator) ++ [style.mark])
  | none =>
    let picked := line.zipIdx.filter fun (_, index) => style.chooses (index + 1)
    let dressed := picked.zipIdx.flatMap fun ((b, index), count) =>
      let glue : Bytes :=
        match style.glue with
        | some glue =>
          let starts := if style.complement then !style.chooses index else begins style.ranges (index + 1)
          if count != 0 && starts then glue else []
        | none => []
      glue ++ [b]
    ((), dressed ++ [style.mark])

end CutStyle

def cutOptionError? (listed : Bool) (letter : Char) (value : String) : Option String :=
  if letter = 'd' && 1 < value.utf8ByteSize then some "the delimiter must be a single character"
  else if ['f', 'c', 'b'].contains letter && listed then some "only one list may be specified"
  else none

/-- What is wrong with the options of `cut` by themselves, the first mistake first.
`listed` tells whether there was a list before. -/
def misusedCut? (listed : Bool) : List (Char × String) → Option String
  | [] => none
  | (letter, value) :: rest =>
    match cutOptionError? listed letter value with
    | some text => some text
    | none => misusedCut? (listed || ['f', 'c', 'b'].contains letter) rest

/-- Passes on chosen lines of each file, as if they were the fields of one line. -/
def cutLines (invocation : Invocation) (style : CutStyle) (failed : Bool) : List String → Program
  | [] => .exitWith (if failed then 1 else 0)
  | operand :: rest =>
    slurp invocation operand fun answer =>
      match answer with
      | .ok data =>
        let output := if data.isEmpty then [] else style.pick style.mark (recordsOf style.mark data) ++ [style.mark]
        emit invocation output fun _ => cutLines invocation style failed rest
      | .error text => warn invocation (pathText operand ++ ": " ++ text) fun _ => cutLines invocation style true rest

def cut : Utility := fun invocation =>
  let table : OptionTable := {
    flags := ['s', 'n', 'z', '!'], valued := ['d', 'f', 'c', 'b', '+'],
    long := [("bytes", 'b'), ("characters", 'c'), ("fields", 'f'), ("delimiter", 'd'), ("only-delimited", 's'),
      ("output-delimiter", '+'), ("complement", '!'), ("zero-terminated", 'z')] }
  let (options, fault) := readArguments table {} invocation.arguments
  let lists := options.given.filter fun (letter, _) => ['f', 'c', 'b'].contains letter
  let fields := options.has 'f'
  let separator := (options.value? 'd').map rawBytes
  if asksAbout table options then .exitWith 0
  else
    match misusedCut? false options.given, fault, lists with
    | some text, _, _ => refuse invocation text
    | none, some e, _ => refuse invocation e.message
    | none, none, [] => refuse invocation "you must specify a list of bytes, characters, or fields"
    | none, none, (_, word) :: _ =>
      if !fields && separator.isSome then
        refuse invocation "an input delimiter may be specified only when operating on fields"
      else if !fields && options.has 's' then
        refuse invocation "suppressing non-delimited lines makes sense\n\tonly when operating on fields"
      else
        match readPositions {} [] word.toList with
        | .error e => refuse invocation (e.message fields)
        | .ok ranges =>
          let mark := lineMark options
          let style : CutStyle := {
            ranges, complement := options.has '!'
            separator := if fields then some ((separator.map (·.headD 0)).getD 9) else none
            glue := (options.value? '+').map fun word => if word.isEmpty then [0] else rawBytes word
            onlySeparated := options.has 's', mark }
          let operands := operandsOrInput options.operands
          if style.separator == some mark then cutLines invocation style false operands
          else
            eachLine invocation mark style.step (fun operand text => pathText operand ++ ": " ++ text)
              (fun _ failed => .exitWith (if failed then 1 else 0)) () false operands

end PipeShell.Utility
