import PipeShell.Text.Regex
import PipeShell.Text.Raw

/-! # Reading regular expressions

Regular expressions are written in several dialects, which differ in what needs a
backslash to be an operator, and in what is an operator at all. -/

set_option autoImplicit false

namespace PipeShell.Text

inductive RegexError where
  | malformed
  | openBracket
  | openGroup
  | closedGroup
  | openCount
  | badCount
  | tooBig
  | nothingRepeated
  | unknownClass
  | unknownCollation
  | badRange
  | badGroup
  | trailingBackslash
  deriving DecidableEq, Repr

def RegexError.message : RegexError → String
  | .malformed => "Invalid regular expression"
  | .openBracket => "Unmatched [, [^, [:, [., or [="
  | .openGroup => "Unmatched ( or \\("
  | .closedGroup => "Unmatched ) or \\)"
  | .openCount => "Unmatched \\\x7b"
  | .badCount => "Invalid content of \\\x7b\\\x7d"
  | .tooBig => "Regular expression too big"
  | .nothingRepeated => "Invalid preceding regular expression"
  | .unknownClass => "Invalid character class name"
  | .unknownCollation => "Invalid collation character"
  | .badRange => "Invalid range end"
  | .badGroup => "Invalid back reference"
  | .trailingBackslash => "Trailing backslash"

structure RegexDialect where
  /-- Groups, alternatives and counts are written without a backslash. -/
  bareGroups : Bool := false
  /-- The signs for one or more and for one or none are written without a
  backslash. -/
  bareRepeats : Bool := false
  counts : Bool := true
  /-- A count must have something in front of it. -/
  strictCounts : Bool := false
  classes : Bool := true
  emptyRanges : Bool := false
  severalLines : Bool := false
  deriving DecidableEq, Repr

namespace RegexDialect

def basic : RegexDialect := {}

def extended : RegexDialect := { bareGroups := true, bareRepeats := true }

end RegexDialect

namespace Regex

def asciiByte (c : Char) : UInt8 := c.toNat.toUInt8

/-- A regular expression that has been read, the number of groups so far, and what
follows. -/
abbrev Parsed := Regex × Nat × Bytes

/-- The members of a bracketed class and what follows it. The first member may be
a closing bracket. -/
def readRanges (dialect : RegexDialect) :
    Nat → Bool → List (Nat × Nat) → Bytes → Except RegexError (List (Nat × Nat) × Bytes)
  | 0, _, _, _ => .error .openBracket
  | _ + 1, first, _, [] => .error (if first then .malformed else .openBracket)
  | bound + 1, first, done, b :: rest =>
    let isNamed := dialect.classes && b = asciiByte '[' && rest.head? == some (asciiByte ':')
    if b = asciiByte ']' && !first then .ok (done.reverse, rest)
    else if isNamed then
      let name := (rest.drop 1).takeWhile (· != asciiByte ':')
      if (rest.drop (name.length + 1)).take 2 != [asciiByte ':', asciiByte ']'] then .error .openBracket
      else
        match asciiClass? (rawText name) with
        | none => .error .unknownClass
        | some ranges => readRanges dialect bound false (ranges.reverse ++ done) (rest.drop (name.length + 3))
    else do
      let element (b : UInt8) (rest : Bytes) : Except RegexError (UInt8 × Bytes) :=
        match b, rest with
        | 91, sign :: inside =>
          if sign = 46 || sign = 61 then
            let name := inside.takeWhile (· != sign)
            match name, inside.drop name.length with
            | [], c :: c' :: 93 :: rest => if c = c' then .ok (c, rest) else .error .unknownCollation
            | [c], _ :: 93 :: rest => .ok (c, rest)
            | _, _ :: 93 :: _ => .error .unknownCollation
            | _, _ => .error .openBracket
          else .ok (b, sign :: inside)
        | b, rest => .ok (b, rest)
      let (low, rest) ← element b rest
      match rest with
      | 45 :: high :: rest' =>
        if high = asciiByte ']' then readRanges dialect bound false ((low.toNat, low.toNat) :: done) rest
        else
          let (high, rest') ← element high rest'
          if high < low && !dialect.emptyRanges then .error .badRange
          else readRanges dialect bound false ((low.toNat, high.toNat) :: done) rest'
      | rest => readRanges dialect bound false ((low.toNat, low.toNat) :: done) rest

def readBracket (dialect : RegexDialect) (text : Bytes) : Except RegexError (ByteClass × Bytes) := do
  let negated := text.head? == some (asciiByte '^')
  let text := if negated then text.drop 1 else text
  let (ranges, rest) ← readRanges dialect (text.length + 1) true [] text
  return (.among negated ranges, rest)

/-- One of the two bounds of a counted repetition. -/
inductive CountBound where
  | missing
  | faulty
  | number (value : Nat)
  deriving DecidableEq, Repr

def mostTimes : Nat := 32767

/-- A bound in front of a comma or of the end of the count, and what follows it;
nothing follows if there is neither. -/
def readCountBound (close : Bytes) : Nat → CountBound → Bytes → CountBound × Bytes
  | 0, _, _ => (.faulty, [])
  | _ + 1, _, [] => (.faulty, [])
  | bound + 1, value, b :: rest =>
    if b = 44 || close.isPrefixOf (b :: rest) then (value, b :: rest)
    else if 48 ≤ b && b ≤ 57 then
      let digit := b.toNat - 48
      let value :=
        match value with
        | .missing => .number digit
        | .number n => .number (min (mostTimes + 1) (n * 10 + digit))
        | .faulty => .faulty
      readCountBound close bound value rest
    else readCountBound close bound .faulty rest

/-- The bounds of a counted repetition behind its opening brace, and what follows;
nothing if the brace stands for itself. -/
def readBounds (dialect : RegexDialect) (text : Bytes) : Except RegexError (Option (Nat × Option Nat × Bytes)) :=
  let close : Bytes := if dialect.bareGroups then [asciiByte '\x7d'] else [asciiByte '\\', asciiByte '\x7d']
  let (low, rest) := readCountBound close (text.length + 1) .missing text
  let commas := rest.head? == some 44
  let (high, behind) := if commas then readCountBound close (text.length + 1) .missing (rest.drop 1) else (low, rest)
  let faulty : Except RegexError (Option (Nat × Option Nat × Bytes)) :=
    if dialect.bareGroups then .ok none else .error (if behind.isEmpty then .openCount else .badCount)
  let done (least : Nat) (most : Option Nat) : Except RegexError (Option (Nat × Option Nat × Bytes)) :=
    if most.any (· < least) || !close.isPrefixOf behind then .error .badCount
    else if mostTimes < most.getD least then .error .tooBig
    else .ok (some (least, most, behind.drop close.length))
  match low, high with
  | .faulty, _ => faulty
  | _, .faulty => faulty
  | .missing, .missing => if commas then done 0 none else .error .badCount
  | .missing, .number high => done 0 (some high)
  | .number low, .missing => done low none
  | .number low, .number high => done low (some high)

/-- The items of a sequence as one regular expression. The last one comes
first. -/
def joined (items : List Regex) : Regex :=
  match items with
  | [] => .empty
  | last :: before => before.foldl (fun regex item => .sequence item regex) last

def repeatLast (least : Nat) (most : Option Nat) : List Regex → List Regex
  | [] => []
  | last :: before => .times last least most .most :: before

def wordRanges : List (Nat × Nat) := (95, 95) :: (asciiClass? "alnum").getD []

def escapeOf (letter : UInt8) : Regex :=
  match Char.ofNat letter.toNat with
  | 'w' => .byte (.among false wordRanges)
  | 'W' => .byte (.among true wordRanges)
  | 's' => .byte (.among false ((asciiClass? "space").getD []))
  | 'S' => .byte (.among true ((asciiClass? "space").getD []))
  | 'b' => .assertion .wordEdge
  | 'B' => .assertion .insideWord
  | '<' => .assertion .wordStart
  | '>' => .assertion .wordEnd
  | '\x60' => .assertion .start
  | '\'' => .assertion .finish
  | _ => .byte (.exactly letter)

inductive Lexeme where
  | item (regex : Regex) (rest : Bytes)
  | repetition (letter : UInt8) (least : Nat) (most : Option Nat) (rest : Bytes)
  | opening (rest : Bytes)
  | closing (rest : Bytes)
  | bar (rest : Bytes)
  | finished

/-- Reads the next part of a sequence. `first` tells that nothing stands in front
of it, and `groups` how many groups have been closed. -/
def nextLexeme (dialect : RegexDialect) (first : Bool) (groups : Nat) (text : Bytes) : Except RegexError Lexeme :=
  let bare := dialect.bareGroups
  let plain (b : UInt8) (rest : Bytes) : Except RegexError Lexeme := .ok (.item (.byte (.exactly b)) rest)
  let counted (rest : Bytes) : Except RegexError Lexeme := do
    match ← readBounds dialect rest with
    | some (least, most, rest) => .ok (.repetition (asciiByte '\x7b') least most rest)
    | none => plain (asciiByte '\x7b') rest
  match text with
  | [] => .ok .finished
  | [92] => .error .trailingBackslash
  | 92 :: letter :: rest =>
    let c := Char.ofNat letter.toNat
    if '1' ≤ c && c ≤ '9' then
      let number := c.toNat - '0'.toNat
      if number ≤ groups then .ok (.item (.again number) rest) else .error .badGroup
    else
      match c with
      | '(' => if bare then plain letter rest else .ok (.opening rest)
      | ')' => if bare then plain letter rest else .ok (.closing rest)
      | '|' => if bare then plain letter rest else .ok (.bar rest)
      | '\x7b' => if bare || !dialect.counts then plain letter rest else if first then plain letter rest else counted rest
      | '+' => if dialect.bareRepeats then plain letter rest else .ok (.repetition letter 1 none rest)
      | '?' => if dialect.bareRepeats then plain letter rest else .ok (.repetition letter 0 (some 1) rest)
      | _ => .ok (.item (escapeOf letter) rest)
  | b :: rest =>
    match Char.ofNat b.toNat with
    | '.' => .ok (.item (.byte (if dialect.severalLines then .among true [(10, 10)] else .any)) rest)
    | '[' => do
      let (cls, rest) ← readBracket dialect rest
      return .item (.byte cls) rest
    | '*' => .ok (.repetition b 0 none rest)
    | '^' =>
      if bare || first then .ok (.item (.assertion (if dialect.severalLines then .lineStart else .start)) rest)
      else plain b rest
    | '$' =>
      let closes := rest.isEmpty || (!bare && [[92, 41], [92, 124]].contains (rest.take 2))
      if bare || closes then .ok (.item (.assertion (if dialect.severalLines then .lineFinish else .finish)) rest)
      else plain b rest
    | '(' => if bare then .ok (.opening rest) else plain b rest
    | ')' => if bare then .ok (.closing rest) else plain b rest
    | '|' => if bare then .ok (.bar rest) else plain b rest
    | '+' => if dialect.bareRepeats then .ok (.repetition b 1 none rest) else plain b rest
    | '?' => if dialect.bareRepeats then .ok (.repetition b 0 (some 1) rest) else plain b rest
    | '\x7b' => if bare then counted rest else plain b rest
    | _ => plain b rest

def isStart : Regex → Bool
  | .assertion .start => true
  | .assertion .lineStart => true
  | _ => false

/-- Reads alternatives up to the end of the group that they stand in. `items` are
those of the current alternative, the last one first. -/
def readAlternatives (dialect : RegexDialect) : Nat → Nat → Nat → List Regex → Bytes → Except RegexError Parsed
  | 0, _, groups, items, rest => .ok (joined items, groups, rest)
  | bound + 1, depth, groups, items, text =>
    let onlyStart := items.length = 1 && items.all isStart
    let bare := dialect.bareGroups
    match nextLexeme dialect items.isEmpty groups text with
    | .error e => .error e
    | .ok .finished => if depth = 0 then .ok (joined items, groups, []) else .error .openGroup
    | .ok (.item regex rest) => readAlternatives dialect bound depth groups (regex :: items) rest
    | .ok (.repetition letter least most rest) =>
      let isCount := letter = asciiByte '\x7b'
      if isCount && items.isEmpty && dialect.strictCounts then .error .nothingRepeated
      else if items.isEmpty && bare then
        match rest with
        | 41 :: rest => readAlternatives dialect bound depth groups [.byte (.exactly 41)] rest
        | rest => readAlternatives dialect bound depth groups items rest
      else if items.isEmpty || (onlyStart && !bare) then
        readAlternatives dialect bound depth groups (.byte (.exactly letter) :: items)
          (if isCount then text.drop 2 else rest)
      else readAlternatives dialect bound depth groups (repeatLast least most items) rest
    | .ok (.bar rest) =>
      match readAlternatives dialect bound depth groups [] rest with
      | .error e => .error e
      | .ok (other, groups, rest) => .ok (.either (joined items) other, groups, rest)
    | .ok (.opening rest) =>
      match readAlternatives dialect bound (depth + 1) (groups + 1) [] rest with
      | .error e => .error e
      | .ok (inner, after, rest) =>
        readAlternatives dialect bound depth after (.group (groups + 1) inner :: items) rest
    | .ok (.closing rest) =>
      if depth != 0 then .ok (joined items, groups, rest)
      else if bare then readAlternatives dialect bound depth groups (.byte (.exactly 41) :: items) rest
      else .error .closedGroup

def parse (dialect : RegexDialect) (text : Bytes) : Except RegexError (Regex × Nat) := do
  let isLone : Bool :=
    dialect.strictCounts && !dialect.bareGroups && text.take 2 == [asciiByte '\\', asciiByte '\x7b']
  if isLone then .error .nothingRepeated
  let (regex, groups, _) ← readAlternatives dialect (text.length + 1) 0 0 [] text
  return (regex, groups)

/-- The repetitions in a text that have nothing in front of them to repeat, as far
as they do not stand for themselves. -/
def idleRepetitions (dialect : RegexDialect) : Nat → Bool → Bytes → List UInt8
  | 0, _, _ => []
  | bound + 1, fresh, text =>
    match nextLexeme dialect false 9 text with
    | .error _ => []
    | .ok .finished => []
    | .ok (.item (.assertion _) rest) => idleRepetitions dialect bound fresh rest
    | .ok (.item _ rest) => idleRepetitions dialect bound false rest
    | .ok (.repetition letter _ _ rest) =>
      if fresh then letter :: idleRepetitions dialect bound fresh rest else idleRepetitions dialect bound fresh rest
    | .ok (.opening rest) => idleRepetitions dialect bound true rest
    | .ok (.closing rest) => idleRepetitions dialect bound false rest
    | .ok (.bar rest) => idleRepetitions dialect bound true rest

def ofText (text : Bytes) : Regex := joined (text.map fun b => .byte (.exactly b)).reverse

end Regex

end PipeShell.Text
