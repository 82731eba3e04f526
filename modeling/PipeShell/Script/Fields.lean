import PipeShell.Script.Pattern

/-! # Fields

An expanded word is a row of parts. Values that stood outside of quotes are
split into fields: blanks between two fields count once and those around the
whole do not count at all, while every other separator ends a field. -/

set_option autoImplicit false

namespace PipeShell.Script

inductive Part where
  /-- Text that is not split; whether it is quoted decides whether it is
  matched. -/
  | text (text : String) (quoted : Bool)
  | quotes
  | value (text : String)
  /-- Several values that are split, each from the others too. -/
  | values (texts : List String)
  /-- Several quoted values, one field for each. -/
  | fields (texts : List String)
  deriving DecidableEq, Repr

structure Splitting where
  closed : List (List Marked) := []
  /-- The open field, its last byte first. -/
  field : List Marked := []
  /-- Whether anything stands in the open field, be it quotes alone. -/
  begun : Bool := false
  /-- Whether a blank has just ended a field. -/
  behindBlank : Bool := false
  /-- Whether the part before had one field for each of its values. -/
  behindFields : Bool := false
  /-- How many more fields may be closed before the last one; no limit if
  absent. -/
  room : Option Nat := none
  /-- How much of the last field counts, if not all of it. -/
  kept : Option Nat := none

namespace Splitting

def add (splitting : Splitting) (b : UInt8) (quoted : Bool) : Splitting :=
  { splitting with field := (b, quoted) :: splitting.field, begun := true }

def addText (splitting : Splitting) (text : String) (quoted : Bool) : Splitting :=
  (rawBytes text).foldl (fun splitting b => splitting.add b quoted) splitting

def close (splitting : Splitting) : Splitting :=
  { splitting with closed := splitting.field.reverse :: splitting.closed, field := [], begun := false }

def isBlank (b : UInt8) : Bool := b = 32 || b = 9 || b = 10

def step (separators : Bytes) (splitting : Splitting) (b : Option UInt8) : Splitting :=
  let separates := b.elim true separators.contains
  let blank := separates && b.elim true isBlank
  let keep (splitting : Splitting) : Splitting := b.elim splitting fun b => splitting.add b false
  if splitting.room == some 0 then
    let kept :=
      if blank then splitting.kept.or (some splitting.field.length)
      else if separates && splitting.behindBlank then splitting.kept
      else none
    { keep splitting with kept, behindBlank := splitting.behindBlank && blank }
  else if splitting.behindBlank then
    if blank then splitting
    else if separates then { splitting with behindBlank := false }
    else { keep splitting with behindBlank := false }
  else if separates then
    let behindBlank := blank && !splitting.behindFields
    if behindBlank && !splitting.begun then { splitting with behindBlank := false }
    else
      match splitting.room with
      | some 1 => { keep splitting with room := some 0, kept := some splitting.field.length, behindBlank }
      | room => { splitting.close with room := room.map (· - 1), behindBlank }
  else { keep splitting with behindBlank := false }

def stepAll (separators : Bytes) (splitting : Splitting) (text : String) : Splitting :=
  (rawBytes text).foldl (fun splitting b => splitting.step separators (some b)) splitting

def addFields (splitting : Splitting) : List String → Splitting
  | [] => splitting
  | [text] => splitting.addText text true
  | text :: rest => (splitting.addText text true).close.addFields rest

def addPart (separators : Bytes) (splitting : Splitting) : Part → Splitting
  | .text text quoted => splitting.addText text quoted
  | .quotes => { splitting with begun := true }
  | .value text =>
    { { splitting with behindBlank := false }.stepAll separators text with behindFields := false }
  | .values texts =>
    let start := { splitting with behindBlank := false }
    let joined := (texts.map fun text => (rawBytes text).map some).intersperse [none]
    { joined.flatten.foldl (step separators) start with behindFields := false }
  | .fields texts =>
    { { splitting with behindBlank := false }.addFields texts with behindFields := true }

def finish (splitting : Splitting) : List (List Marked) :=
  let field := splitting.field.reverse
  let field := splitting.kept.elim field field.take
  let complete := splitting.begun && (splitting.kept != some 0 || !field.isEmpty) || splitting.behindFields
  (if complete then field :: splitting.closed else splitting.closed).reverse

end Splitting

def splitFields (separators : Bytes) (parts : List Part) : List (List Marked) :=
  (parts.foldl (Splitting.addPart separators) {}).finish

/-- At most `count` fields of a line of which some bytes are protected; the
last field takes the rest of the line. -/
def splitLine (separators : Bytes) (count : Nat) (parts : List Part) : List String :=
  ((parts.foldl (Splitting.addPart separators) { room := some count }).finish).map plainText

def joinTexts (joint : Bytes) (texts : List String) : String := rawText (joint.intercalate (texts.map rawBytes))

def joinParts (joint : Bytes) (parts : List Part) : List Marked :=
  parts.flatMap fun part =>
    match part with
    | .text text quoted => markAll quoted text
    | .quotes => []
    | .value text => markAll false text
    | .values texts => markAll false (joinTexts joint texts)
    | .fields texts => markAll true (joinTexts joint texts)

end PipeShell.Script
