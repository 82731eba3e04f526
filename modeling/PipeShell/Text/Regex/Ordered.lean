import PipeShell.Text.Regex.Parser

/-! # Regular expressions with an order of preference

A dialect in which the first match that is preferred counts, not the longest.
Repetitions may prefer few matches, groups may look around or be committed to, and
flags may change in between. -/

set_option autoImplicit false

namespace PipeShell.Text

/-- What is wrong with a regular expression of this dialect. -/
inductive OrderedError where
  | lastBackslash
  | lastControl
  | unknownEscape
  | unsupportedEscape
  | countOrder
  | countSize
  | openClass
  | classEscape
  | classOrder
  | classRange
  | nothingToRepeat
  | unknownFlag
  | nakedClass
  | openParenthesis
  | closedParenthesis
  | openComment
  | missingGroup
  | loopingBack
  | unknownName
  deriving DecidableEq, Repr

def OrderedError.message : OrderedError → String
  | .lastBackslash => "\\ at end of pattern"
  | .lastControl => "\\c at end of pattern"
  | .unknownEscape => "unrecognized character follows \\"
  | .unsupportedEscape => "PCRE2 does not support \\F, \\L, \\l, \\N\x7bname\x7d, \\U, or \\u"
  | .countOrder => "numbers out of order in \x7b\x7d quantifier"
  | .countSize => "number too big in \x7b\x7d quantifier"
  | .openClass => "missing terminating ] for character class"
  | .classEscape => "escape sequence is invalid in character class"
  | .classOrder => "range out of order in character class"
  | .classRange => "invalid range in character class"
  | .nothingToRepeat => "quantifier does not follow a repeatable item"
  | .unknownFlag => "unrecognized character after (? or (?-"
  | .nakedClass => "POSIX named classes are supported only within a class"
  | .openParenthesis => "missing closing parenthesis"
  | .closedParenthesis => "unmatched closing parenthesis"
  | .openComment => "missing ) after (?# comment"
  | .missingGroup => "reference to non-existent subpattern"
  | .loopingBack => "lookbehind assertion is not fixed length"
  | .unknownName => "unknown POSIX class name"

namespace Regex

/-- The flags in force while a regular expression is read. -/
structure OrderedFlags where
  /-- The case of letters does not matter. -/
  folded : Bool := false
  dotAll : Bool := false
  /-- Lines in the text count for its start and end. -/
  lines : Bool := false
  spaced : Bool := false
  deriving DecidableEq, Repr

/-- What is known while a regular expression is read. -/
structure OrderedState where
  flags : OrderedFlags := {}
  groups : Nat := 0
  names : List (String × Nat) := []
  /-- The greatest group that is referred to. -/
  wanted : Nat := 0
  called : List String := []

def rangesOf (test : UInt8 → Bool) : List (Nat × Nat) :=
  ((List.range 256).filter fun value => test value.toUInt8).map fun value => (value, value)

def OrderedFlags.byte (flags : OrderedFlags) (cls : ByteClass) : Regex :=
  if flags.folded then .byte (.among false (rangesOf (cls.admits true))) else .byte cls

def escapedClass? (letter : Char) : Option ByteClass :=
  let named (negated : Bool) (name : String) : Option ByteClass := (asciiClass? name).map (.among negated)
  match letter with
  | 'd' => named false "digit"
  | 'D' => named true "digit"
  | 's' => named false "space"
  | 'S' => named true "space"
  | 'w' => some (.among false wordRanges)
  | 'W' => some (.among true wordRanges)
  | 'h' => some (.among false [(9, 9), (32, 32), (160, 160)])
  | 'H' => some (.among true [(9, 9), (32, 32), (160, 160)])
  | 'v' => some (.among false [(10, 13), (133, 133)])
  | 'V' => some (.among true [(10, 13), (133, 133)])
  | _ => none

def hexValue? (b : UInt8) : Option Nat :=
  if 48 ≤ b && b ≤ 57 then some (b.toNat - 48)
  else if 97 ≤ b && b ≤ 102 then some (b.toNat - 87)
  else if 65 ≤ b && b ≤ 70 then some (b.toNat - 55)
  else none

def digitsValue (base : Nat) (digits : Bytes) : Nat :=
  digits.foldl (fun value b => value * base + (hexValue? b).getD 0) 0

def escapedByte? (letter : UInt8) (rest : Bytes) : Except OrderedError (Option (UInt8 × Bytes)) :=
  let isOctal (b : UInt8) : Bool := 48 ≤ b && b ≤ 55
  match Char.ofNat letter.toNat with
  | 'a' => .ok (some (7, rest))
  | 'e' => .ok (some (27, rest))
  | 'f' => .ok (some (12, rest))
  | 'n' => .ok (some (10, rest))
  | 'r' => .ok (some (13, rest))
  | 't' => .ok (some (9, rest))
  | '0' =>
    let digits := (rest.take 2).takeWhile isOctal
    .ok (some ((digitsValue 8 digits).toUInt8, rest.drop digits.length))
  | 'o' =>
    match rest with
    | 123 :: inside =>
      let digits := inside.takeWhile isOctal
      .ok (some ((digitsValue 8 digits).toUInt8, inside.drop (digits.length + 1)))
    | _ => .error .unknownEscape
  | 'x' =>
    match rest with
    | 123 :: inside =>
      let digits := inside.takeWhile fun b => (hexValue? b).isSome
      .ok (some ((digitsValue 16 digits).toUInt8, inside.drop (digits.length + 1)))
    | rest =>
      let digits := (rest.take 2).takeWhile fun b => (hexValue? b).isSome
      .ok (some ((digitsValue 16 digits).toUInt8, rest.drop digits.length))
  | 'c' =>
    match rest with
    | [] => .error .lastControl
    | b :: rest =>
      let upper := if 97 ≤ b && b ≤ 122 then b - 32 else b
      .ok (some (upper ^^^ 64, rest))
  | c => if c.isAlphanum then .ok none else .ok (some (letter, rest))

inductive ClassMember where
  | single (b : UInt8)
  | several (cls : ByteClass)

def readMember (text : Bytes) : Except OrderedError (ClassMember × Bytes) :=
  match text with
  | [] => .error .openClass
  | [92] => .error .lastBackslash
  | 92 :: letter :: rest =>
    match escapedClass? (Char.ofNat letter.toNat) with
    | some cls => .ok (.several cls, rest)
    | none =>
      match letter with
      | 98 => .ok (.single 8, rest)
      | 66 | 82 | 88 | 78 => .error .classEscape
      | letter =>
        if 49 ≤ letter && letter ≤ 55 then
          let digits := ((letter :: rest).take 3).takeWhile fun b => 48 ≤ b && b ≤ 55
          .ok (.single (digitsValue 8 digits).toUInt8, (letter :: rest).drop digits.length)
        else
          match escapedByte? letter rest with
          | .ok (some (b, rest)) => .ok (.single b, rest)
          | .ok none => .error .unknownEscape
          | .error e => .error e
  | 91 :: 58 :: inside =>
    let negated := inside.head? == some 94
    let body := if negated then inside.drop 1 else inside
    let name := body.takeWhile fun b => b != 58 && b != 93
    if (body.drop name.length).take 2 != [58, 93] then .ok (.single 91, 58 :: inside)
    else
      let ranges := if rawText name == "word" then some wordRanges else asciiClass? (rawText name)
      match ranges with
      | some ranges => .ok (.several (.among negated ranges), body.drop (name.length + 2))
      | none => .error .unknownName
  | b :: rest => .ok (.single b, rest)

/-- The bytes of a bracketed class behind its opening bracket, as tests, and what
follows the closing one. -/
def readClass : Nat → Bool → List ByteClass → Bytes → Except OrderedError (List ByteClass × Bytes)
  | 0, _, _, _ => .error .openClass
  | bound + 1, first, done, text =>
    match text with
    | [] => .error .openClass
    | 93 :: rest => if first then readClass bound false (.exactly 93 :: done) rest else .ok (done, rest)
    | 92 :: 69 :: rest => readClass bound first done rest
    | text =>
      match readMember text with
      | .error e => .error e
      | .ok (.several cls, 45 :: high :: rest) =>
        if high = 93 then readClass bound false (.exactly 45 :: cls :: done) (high :: rest)
        else .error .classRange
      | .ok (.several cls, rest) => readClass bound false (cls :: done) rest
      | .ok (.single low, 45 :: high :: rest) =>
        if high = 93 then readClass bound false (.exactly 45 :: .exactly low :: done) (high :: rest)
        else
          match readMember (high :: rest) with
          | .error e => .error e
          | .ok (.several _, _) => .error .classRange
          | .ok (.single high, rest) =>
            if high < low then .error .classOrder
            else readClass bound false (.among false [(low.toNat, high.toNat)] :: done) rest
      | .ok (.single b, rest) => readClass bound false (.exactly b :: done) rest

/-- The bounds behind an opening brace and what follows; nothing if the brace stands
for itself. -/
def orderedBounds? (text : Bytes) : Option (Nat × Option Nat × Bytes) :=
  let isDigit (b : UInt8) : Bool := 48 ≤ b && b ≤ 57
  let low := text.takeWhile isDigit
  match low, text.drop low.length with
  | [], _ => none
  | low, 125 :: rest => some (digitsValue 10 low, some (digitsValue 10 low), rest)
  | low, 44 :: rest =>
    let high := rest.takeWhile isDigit
    match rest.drop high.length with
    | 125 :: behind => some (digitsValue 10 low, if high.isEmpty then none else some (digitsValue 10 high), behind)
    | _ => none
  | _, _ => none

def repetition? (text : Bytes) : Except OrderedError (Option (Nat × Option Nat × Preference × Bytes)) :=
  let bounds : Option (Nat × Option Nat × Bytes) :=
    match text with
    | 42 :: rest => some (0, none, rest)
    | 43 :: rest => some (1, none, rest)
    | 63 :: rest => some (0, some 1, rest)
    | 123 :: rest => orderedBounds? rest
    | _ => none
  match bounds with
  | none => .ok none
  | some (least, most, rest) =>
    if 65535 < most.getD least || 65535 < least then .error .countSize
    else if most.any (· < least) then .error .countOrder
    else
      match rest with
      | 63 :: rest => .ok (some (least, most, .fewest, rest))
      | 43 :: rest => .ok (some (least, most, .all, rest))
      | rest => .ok (some (least, most, .most, rest))

/-- The lengths that matches of a regular expression may have, as far as it has only
finitely many. -/
def lengths? : Regex → Option (List Nat)
  | .empty | .assertion _ | .look _ _ _ | .mark => some [0]
  | .byte _ => some [1]
  | .sequence first second => do
    let a ← lengths? first
    let b ← lengths? second
    return (a.flatMap fun n => b.map (n + ·)).eraseDups
  | .either first second => do return ((← lengths? first) ++ (← lengths? second)).eraseDups
  | .times body least most _ => if most == some least then (lengths? body).map (·.map (least * ·)) else none
  | .group _ body | .committed body => lengths? body
  | .again _ => none

inductive GroupKind where
  | numbered (name : Option String)
  | plain
  | committed
  | look (behind negated : Bool)

def groupName (stop : UInt8) (text : Bytes) : String × Bytes :=
  let name := text.takeWhile (· != stop)
  (rawText name, text.drop (name.length + 1))

def changeFlags (flags : OrderedFlags) (on : Bool) : Bytes → Except OrderedError (OrderedFlags × Bytes)
  | [] => .error .openParenthesis
  | b :: rest =>
    match Char.ofNat b.toNat with
    | ')' => .ok (flags, b :: rest)
    | ':' => .ok (flags, b :: rest)
    | '-' => changeFlags flags false rest
    | 'i' => changeFlags { flags with folded := on } on rest
    | 's' => changeFlags { flags with dotAll := on } on rest
    | 'm' => changeFlags { flags with lines := on } on rest
    | 'x' => changeFlags { flags with spaced := on } on rest
    | 'U' | 'J' | 'n' => changeFlags flags on rest
    | _ => .error .unknownFlag

inductive OrderedLexeme where
  | item (regex : Regex) (state : OrderedState) (rest : Bytes)
  | flags (flags : OrderedFlags) (rest : Bytes)
  | opening (kind : GroupKind) (flags : OrderedFlags) (rest : Bytes)
  | closing (rest : Bytes)
  | bar (rest : Bytes)
  | nothing (rest : Bytes)
  | finished

def readOpening (flags : OrderedFlags) (text : Bytes) : Except OrderedError OrderedLexeme :=
  match text with
  | 63 :: 35 :: rest =>
    let comment := rest.takeWhile (· != 41)
    if (rest.drop comment.length).isEmpty then .error .openComment else .ok (.nothing (rest.drop (comment.length + 1)))
  | 63 :: 58 :: rest => .ok (.opening .plain flags rest)
  | 63 :: 124 :: rest => .ok (.opening .plain flags rest)
  | 63 :: 62 :: rest => .ok (.opening .committed flags rest)
  | 63 :: 61 :: rest => .ok (.opening (.look false false) flags rest)
  | 63 :: 33 :: rest => .ok (.opening (.look false true) flags rest)
  | 63 :: 60 :: 61 :: rest => .ok (.opening (.look true false) flags rest)
  | 63 :: 60 :: 33 :: rest => .ok (.opening (.look true true) flags rest)
  | 63 :: 60 :: rest =>
    let (name, rest) := groupName 62 rest
    .ok (.opening (.numbered (some name)) flags rest)
  | 63 :: 80 :: 60 :: rest =>
    let (name, rest) := groupName 62 rest
    .ok (.opening (.numbered (some name)) flags rest)
  | 63 :: 39 :: rest =>
    let (name, rest) := groupName 39 rest
    .ok (.opening (.numbered (some name)) flags rest)
  | 63 :: rest => do
    let (changed, rest) ← changeFlags flags true rest
    match rest with
    | 58 :: rest => return .opening .plain changed rest
    | rest => return .flags changed (rest.drop 1)
  | rest => .ok (.opening (.numbered none) flags rest)

def reference (state : OrderedState) (name : String) (rest : Bytes) : Except OrderedError OrderedLexeme :=
  let number : Option Nat :=
    if !name.isEmpty && name.toList.all Char.isDigit then name.toNat?
    else
      match name.toList with
      | '-' :: digits =>
        (String.ofList digits).toNat?.bind fun back => if back ≤ state.groups then some (state.groups + 1 - back) else none
      | _ => state.names.lookup name
  match number with
  | some number => .ok (.item (.again number) { state with wanted := max state.wanted number } rest)
  | none => .error .missingGroup

def readEscape (state : OrderedState) (letter : UInt8) (rest : Bytes) : Except OrderedError OrderedLexeme :=
  let item (regex : Regex) : Except OrderedError OrderedLexeme := .ok (.item regex state rest)
  let braced (rest : Bytes) : String × Bytes :=
    match rest with
    | 123 :: inside => groupName 125 inside
    | 60 :: inside => groupName 62 inside
    | 39 :: inside => groupName 39 inside
    | rest =>
      let digits := rest.takeWhile fun b => 48 ≤ b && b ≤ 57
      (rawText digits, rest.drop digits.length)
  match Char.ofNat letter.toNat with
  | 'b' => item (.assertion .wordEdge)
  | 'B' => item (.assertion .insideWord)
  | 'A' => item (.assertion .start)
  | 'G' => item (.assertion .start)
  | 'z' => item (.assertion .finish)
  | 'Z' => item (.assertion .lastFinish)
  | 'K' => item .mark
  | 'N' => if rest.head? == some 123 then .error .unsupportedEscape else item (.byte (.among true [(10, 10)]))
  | 'C' => item (.byte .any)
  | 'X' => item (.byte .any)
  | 'R' =>
    item (.committed (.either (.sequence (.byte (.exactly 13)) (.byte (.exactly 10)))
      (.byte (.among false [(10, 13), (133, 133)]))))
  | 'L' | 'l' | 'U' | 'u' => .error .unsupportedEscape
  | 'E' => .ok (.nothing rest)
  | 'Q' =>
    let rec quoted : Bytes → Bytes → Bytes × Bytes
      | done, [] => (done.reverse, [])
      | done, 92 :: 69 :: rest => (done.reverse, rest)
      | done, b :: rest => quoted (b :: done) rest
    let (text, rest) := quoted [] rest
    match text with
    | [] => .ok (.nothing rest)
    | b :: more =>
      .ok (.item (more.foldl (fun regex b => .sequence regex (state.flags.byte (.exactly b)))
        (state.flags.byte (.exactly b))) state rest)
  | 'g' =>
    let (name, rest) := braced rest
    reference state name rest
  | 'k' =>
    let (name, rest) := braced rest
    reference state name rest
  | c =>
    if '1' ≤ c && c ≤ '9' then
      let digits := (letter :: rest).takeWhile fun b => 48 ≤ b && b ≤ 57
      let number := digitsValue 10 digits
      if number < 10 || number ≤ state.groups then
        .ok (.item (.again number) { state with wanted := max state.wanted number } ((letter :: rest).drop digits.length))
      else
        let octal := ((letter :: rest).take 3).takeWhile fun b => 48 ≤ b && b ≤ 55
        if octal.isEmpty then .error .missingGroup
        else .ok (.item (.byte (.exactly (digitsValue 8 octal).toUInt8)) state ((letter :: rest).drop octal.length))
    else
      match escapedClass? c with
      | some cls => item (.byte cls)
      | none =>
        match escapedByte? letter rest with
        | .error e => .error e
        | .ok none => .error .unknownEscape
        | .ok (some (b, rest)) => .ok (.item (state.flags.byte (.exactly b)) state rest)

def nextOrdered (state : OrderedState) (text : Bytes) : Except OrderedError OrderedLexeme :=
  let flags := state.flags
  let plain (b : UInt8) (rest : Bytes) : Except OrderedError OrderedLexeme :=
    .ok (.item (flags.byte (.exactly b)) state rest)
  match text with
  | [] => .ok .finished
  | [92] => .error .lastBackslash
  | 92 :: letter :: rest => readEscape state letter rest
  | b :: rest =>
    match Char.ofNat b.toNat with
    | '.' => .ok (.item (.byte (if flags.dotAll then .any else .among true [(10, 10)])) state rest)
    | '^' => .ok (.item (.assertion (if flags.lines then .lineStart else .start)) state rest)
    | '$' => .ok (.item (.assertion (if flags.lines then .lineFinish else .finish)) state rest)
    | '(' =>
      match rest with
      | 63 :: 80 :: 61 :: rest =>
        let (name, rest) := groupName 41 rest
        reference state name rest
      | rest => readOpening flags rest
    | ')' => .ok (.closing rest)
    | '|' => .ok (.bar rest)
    | '[' => do
      let signs : List UInt8 := [58, 46, 61]
      let isNaked : Bool :=
        match rest with
        | sign :: inside =>
          signs.contains sign && (inside.dropWhile fun b => b != sign && b != 93).take 2 == [sign, 93]
        | [] => false
      if isNaked then .error .nakedClass
      let negated := rest.head? == some 94
      let body := if negated then rest.drop 1 else rest
      let (members, rest) ← readClass (body.length + 1) true [] body
      let test (b : UInt8) : Bool := members.any fun cls => cls.admits flags.folded b
      return .item (.byte (.among negated (rangesOf test))) state rest
    | '#' =>
      if flags.spaced then .ok (.nothing ((rest.dropWhile (· != 10)).drop 1)) else plain b rest
    | c => if flags.spaced && (c.isWhitespace || c = '\x0c' || c = '\x0b') then .ok (.nothing rest) else plain b rest

def GroupKind.enclose (kind : GroupKind) (number : Nat) (body : Regex) : Except OrderedError Regex :=
  match kind with
  | .numbered _ => .ok (.group number body)
  | .plain => .ok body
  | .committed => .ok (.committed body)
  | .look false negated => .ok (.look false negated body)
  | .look true negated => if (lengths? body).isSome then .ok (.look true negated body) else .error .loopingBack

/-- Reads alternatives up to the end of the group that they stand in. `items` are
those of the current alternative, the last one first; `fixed` tells that the last
one cannot be repeated. -/
def readOrdered : Nat → Nat → OrderedState → Bool → List Regex → Bytes →
    Except OrderedError (Regex × OrderedState × Bytes)
  | 0, _, state, _, items, rest => .ok (joined items, state, rest)
  | bound + 1, depth, state, fixed, items, text =>
    match repetition? text with
    | .error e => .error e
    | .ok (some (least, most, preference, rest)) =>
      match items with
      | last :: before =>
        if fixed then .error .nothingToRepeat
        else readOrdered bound depth state true (.times last least most preference :: before) rest
      | [] => .error .nothingToRepeat
    | .ok none =>
      match nextOrdered state text with
      | .error e => .error e
      | .ok .finished => if depth = 0 then .ok (joined items, state, []) else .error .openParenthesis
      | .ok (.nothing rest) => readOrdered bound depth state fixed items rest
      | .ok (.flags flags rest) => readOrdered bound depth { state with flags } true items rest
      | .ok (.item regex state rest) =>
        let isMark := regex == .mark
        readOrdered bound depth state isMark (regex :: items) rest
      | .ok (.bar rest) =>
        match readOrdered bound depth state true [] rest with
        | .error e => .error e
        | .ok (other, state, rest) => .ok (.either (joined items) other, state, rest)
      | .ok (.opening kind flags rest) =>
        let (number, inside) : Nat × OrderedState :=
          match kind with
          | .numbered name =>
            let number := state.groups + 1
            (number, { state with flags, groups := number, names := (name.map fun name => (name, number)).toList ++ state.names })
          | _ => (0, { state with flags })
        match readOrdered bound (depth + 1) inside true [] rest with
        | .error e => .error e
        | .ok (body, after, rest) =>
          match kind.enclose number body with
          | .error e => .error e
          | .ok regex => readOrdered bound depth { after with flags := state.flags } false (regex :: items) rest
      | .ok (.closing rest) =>
        if depth = 0 then .error .closedParenthesis else .ok (joined items, state, rest)

def parseOrdered (text : Bytes) : Except OrderedError Regex :=
  match readOrdered (2 * text.length + 2) 0 {} true [] text with
  | .error e => .error e
  | .ok (regex, state, _) => if state.groups < state.wanted then .error .missingGroup else .ok regex

end Regex

end PipeShell.Text
