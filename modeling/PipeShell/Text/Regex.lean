import PipeShell.Text.Ranges

/-! # Regular expressions

Regular expressions over bytes, and where they match. From a place, a regular
expression may match up to several ends. They are found in the order in which the
expression prefers them; either the first of them counts or the longest. -/

set_option autoImplicit false

namespace PipeShell.Text

inductive ByteClass where
  | any
  | exactly (b : UInt8)
  | among (negated : Bool) (ranges : List (Nat × Nat))
  deriving DecidableEq, Repr

def otherCase (b : UInt8) : UInt8 :=
  if 65 ≤ b && b ≤ 90 then b + 32 else if 97 ≤ b && b ≤ 122 then b - 32 else b

def ByteClass.admits (folded : Bool) (cls : ByteClass) (b : UInt8) : Bool :=
  match cls with
  | .any => true
  | .exactly c => c == b || (folded && otherCase c == b)
  | .among negated ranges =>
    let isIn (b : UInt8) : Bool := ranges.any fun (low, high) => low ≤ b.toNat && b.toNat ≤ high
    (isIn b || (folded && isIn (otherCase b))) != negated

/-- A place in a text that matches without taking any byte. -/
inductive Assertion where
  | start
  | finish
  /-- The start of the text, or of a line in it. -/
  | lineStart
  /-- The end of the text, or of a line in it. -/
  | lineFinish
  /-- The end of the text, or of its last line. -/
  | lastFinish
  | wordStart
  | wordEnd
  | wordEdge
  | insideWord
  deriving DecidableEq, Repr

inductive Preference where
  | most
  | fewest
  /-- As many as there are, and nothing else. -/
  | all
  deriving DecidableEq, Repr

inductive Regex where
  | empty
  | byte (cls : ByteClass)
  | assertion (kind : Assertion)
  | sequence (first second : Regex)
  | either (first second : Regex)
  /-- At least and at most so many times. -/
  | times (body : Regex) (least : Nat) (most : Option Nat) (preference : Preference)
  | group (number : Nat) (body : Regex)
  | again (number : Nat)
  /-- A place in front of a match or behind one, or none such. -/
  | look (behind negated : Bool) (body : Regex)
  | committed (body : Regex)
  /-- The place from which on the match is reported. -/
  | mark
  deriving DecidableEq, Repr

def isWordByte (b : UInt8) : Bool := inAsciiClass "alnum" b.toNat || b = 95

def wordAt (text : Array UInt8) (place : Nat) : Bool := (text[place]?.map isWordByte).getD false

def wordBefore (text : Array UInt8) (place : Nat) : Bool := place != 0 && wordAt text (place - 1)

def Assertion.holds (text : Array UInt8) (place : Nat) : Assertion → Bool
  | .start => place = 0
  | .finish => place = text.size
  | .lineStart => place = 0 || text[place - 1]? == some 10
  | .lineFinish => place = text.size || text[place]? == some 10
  | .lastFinish => place = text.size || (place + 1 = text.size && text[place]? == some 10)
  | .wordStart => !wordBefore text place && wordAt text place
  | .wordEnd => wordBefore text place && !wordAt text place
  | .wordEdge => wordBefore text place != wordAt text place
  | .insideWord => wordBefore text place == wordAt text place

namespace Regex

abbrev Groups := List (Nat × Nat × Nat)

abbrev End := Nat × Groups

def distinct (ends : List End) : List End :=
  (ends.foldl (fun (done : List End) candidate =>
    if done.any (·.1 == candidate.1) then done else candidate :: done) []).reverse

def spanFrom (folded : Bool) (cls : ByteClass) (text : Array UInt8) : Nat → Nat → Nat
  | 0, _ => 0
  | bound + 1, place =>
    match text[place]? with
    | some b => if cls.admits folded b then spanFrom folded cls text bound (place + 1) + 1 else 0
    | none => 0

/-- The ends of repeated matches, at most `bound` of them in a row. A repetition
that takes no byte is not repeated. -/
def repeated (step : Nat → Groups → List End) (lazy : Bool) : Nat → Nat → Option Nat → Nat → Groups → List End
  | 0, _, _, place, groups => [(place, groups)]
  | bound + 1, least, most, place, groups =>
    let further :=
      if most = some 0 then []
      else
        (step place groups).flatMap fun (stop, inner) =>
          if stop = place && least = 0 then []
          else repeated step lazy bound (least - 1) (most.map (· - 1)) stop inner
    let here := if least = 0 then [(place, groups)] else []
    distinct (if lazy then here ++ further else further ++ here)

def markGroup : Nat := 0

def ends (folded : Bool) (text : Array UInt8) : Regex → Nat → Groups → List End
  | .empty, place, groups => [(place, groups)]
  | .byte cls, place, groups =>
    match text[place]? with
    | some b => if cls.admits folded b then [(place + 1, groups)] else []
    | none => []
  | .assertion kind, place, groups => if kind.holds text place then [(place, groups)] else []
  | .sequence first second, place, groups =>
    match ends folded text first place groups with
    | [] => []
    | [(stop, inner)] => ends folded text second stop inner
    | several => distinct (several.flatMap fun (stop, inner) => ends folded text second stop inner)
  | .either first second, place, groups =>
    distinct (ends folded text first place groups ++ ends folded text second place groups)
  | .times (.byte cls) least most preference, place, groups =>
    let span := spanFrom folded cls text (most.getD text.size) place
    let found := ((List.range (span + 1)).drop least).map fun count => (place + count, groups)
    match preference with
    | .most => found.reverse
    | .fewest => found
    | .all => found.getLast?.toList
  | .times body least most preference, place, groups =>
    let found := repeated (ends folded text body) (preference == .fewest) (text.size + least + 1) least most place groups
    if preference == .all then found.take 1 else found
  | .group number body, place, groups =>
    (ends folded text body place groups).map fun (stop, inner) => (stop, (number, place, stop) :: inner)
  | .again number, place, groups =>
    match groups.lookup number with
    | none => []
    | some (start, stop) =>
      let length := stop - start
      let same := (List.range length).all fun offset =>
        match text[start + offset]?, text[place + offset]? with
        | some a, some b => a == b || (folded && otherCase a == b)
        | _, _ => false
      if same then [(place + length, groups)] else []
  | .look false negated body, place, groups =>
    match ends folded text body place groups with
    | [] => if negated then [(place, groups)] else []
    | (_, inner) :: _ => if negated then [] else [(place, inner)]
  | .look true negated body, place, groups =>
    let found := (List.range (place + 1)).any fun back =>
      (ends folded text body (place - back) groups).any (·.1 == place)
    if found != negated then [(place, groups)] else []
  | .committed body, place, groups => (ends folded text body place groups).take 1
  | .mark, place, groups => [(place, (markGroup, place, place) :: groups)]

def longest? (folded : Bool) (text : Array UInt8) (regex : Regex) (place : Nat) : Option End :=
  (ends folded text regex place []).foldl (fun best candidate =>
    match best with
    | none => some candidate
    | some found => if found.1 < candidate.1 then some candidate else best) none

/-- The first place, at most `bound` places on, from which there is a match that
`choose` accepts, with the match. -/
def search (choose : Nat → Option End) : Nat → Nat → Option (Nat × End)
  | 0, _ => none
  | bound + 1, place =>
    match choose place with
    | some found => some (place, found)
    | none => search choose bound (place + 1)

def find? (folded : Bool) (text : Array UInt8) (regex : Regex) (place : Nat) : Option (Nat × End) :=
  search (longest? folded text regex) (text.size + 1 - place) place

end Regex

end PipeShell.Text
