/-! # Control sequences

What a terminal takes as a command does not belong to the text around it. An escape
character begins a sequence; which characters belong to it depends on those that were
read before. Inside of a sequence, blanks other than the space still count as text where
the sequence is short, and everything is swallowed where it holds a text of its own. -/

set_option autoImplicit false

namespace PipeShell.Text

/-- Where a reader of control sequences is. -/
inductive SequencePhase where
  | outside
  | escape
  /-- Behind an escape character and some marks. -/
  | marked
  /-- In the numbers and marks of a command. -/
  | command
  /-- At the beginning of a message to the device. -/
  | deviceHead
  /-- In the numbers of a message to the device. -/
  | deviceNumbers
  /-- In the marks of a message to the device. -/
  | deviceMarks
  /-- In a text that is not shown. -/
  | hidden
  /-- In a text that is not shown either, which a bell ends. -/
  | title
  deriving DecidableEq, Repr

namespace SequencePhase

/-- The phase behind a byte. Two control characters break every sequence off, and the
escape character begins a new one. -/
def after (phase : SequencePhase) (b : UInt8) : SequencePhase :=
  if b = 0x18 || b = 0x1a then .outside
  else if b = 0x1b then .escape
  else
    let isMark : Bool := 0x20 ≤ b && b ≤ 0x2f
    let isNumber : Bool := 0x30 ≤ b && b ≤ 0x3b
    let isSign : Bool := 0x3c ≤ b && b ≤ 0x3f
    let isLast : Bool := 0x40 ≤ b && b ≤ 0x7e
    match phase with
    | .outside => .outside
    | .escape =>
      if b = 0x5b then .command
      else if b = 0x5d then .title
      else if b = 0x50 then .deviceHead
      else if b = 0x58 || b = 0x5e || b = 0x5f then .hidden
      else if isMark then .marked
      else if isNumber || isSign || isLast then .outside
      else .escape
    | .marked => if isNumber || isSign || isLast then .outside else .marked
    | .command => if isLast then .outside else .command
    | .deviceHead =>
      if isMark then .deviceMarks else if isNumber || isSign then .deviceNumbers else if isLast then .hidden else .deviceHead
    | .deviceNumbers =>
      if isMark then .deviceMarks else if isSign || isLast then .hidden else .deviceNumbers
    | .deviceMarks => if isNumber || isSign || isLast then .hidden else .deviceMarks
    | .hidden => if b = 0x9c then .outside else .hidden
    | .title => if b = 0x07 then .outside else .title

/-- Whether a byte that is a character of its own is kept. -/
def keeps (phase : SequencePhase) (b : UInt8) : Bool :=
  let isBlank : Bool := b = 0x09 || b = 0x0a || b = 0x0c || b = 0x0d
  match phase with
  | .outside => isBlank || (0x20 ≤ b && b ≤ 0x7e)
  | .escape | .marked | .command => isBlank
  | _ => false

end SequencePhase

/-- The characters that are left of a text without its control sequences and control
characters, from a phase on. Characters of several bytes are text outside of sequences;
inside of them each byte counts. A blank that is kept inside of a sequence begins a stretch
of text, in which all is `shown` as outside of sequences; the phase is taken up again behind
the stretch, unless a character of several bytes has ended it. -/
def keptFrom (phase : SequencePhase) (shown : Bool) : List Char → List Char
  | [] => []
  | c :: rest =>
    match String.utf8EncodeChar c with
    | [b] =>
      if shown && SequencePhase.outside.keeps b then c :: keptFrom phase true rest
      else if !shown && phase.keeps b then c :: keptFrom (phase.after b) true rest
      else keptFrom (phase.after b) false rest
    | bytes =>
      if shown || phase = .outside then c :: keptFrom .outside true rest
      else keptFrom (bytes.foldl SequencePhase.after phase) false rest

def withoutSequences (text : String) : String := String.ofList (keptFrom .outside false text.toList)

end PipeShell.Text
