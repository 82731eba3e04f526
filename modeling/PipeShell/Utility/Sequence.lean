import PipeShell.Utility.Printf

/-! # Sequences of numbers

Numbers from one to another in equal steps, with as many decimal places as the
words that give them, or in a given form. -/

set_option autoImplicit false

namespace PipeShell.Utility

open PipeShell.System

def sequenceBits : Nat := 64

def sequenceExponents : Nat := 16384

/-- A number as it is given: its value, how many decimal places it has, and how wide
it is. -/
structure SequenceWord where
  value : Text.Real
  /-- Nothing if it is not given in decimal places. -/
  places : Option Nat
  width : Int
  deriving DecidableEq, Repr

def writtenExponent (text : List Char) : Int :=
  match text with
  | '-' :: digits => -Int.ofNat ((number? (String.ofList digits)).getD 0)
  | '+' :: digits => Int.ofNat ((number? (String.ofList digits)).getD 0)
  | digits => Int.ofNat ((number? (String.ofList digits)).getD 0)

/-- How many decimal places a number has, and how wide it is, by the way it is
written. -/
def writtenSize (text : List Char) : Nat × Int :=
  let mantissa := text.takeWhile fun c => c != 'e' && c != 'E'
  let hasExponent := mantissa.length < text.length
  let exponent := writtenExponent (text.drop (mantissa.length + 1))
  let hasPoint := mantissa.contains '.'
  let front := mantissa.takeWhile (· != '.')
  let behind := (mantissa.drop front.length).drop 1
  let bare : Int := mantissa.length +
    if !hasPoint then 0 else if behind.isEmpty then -1 else if front.getLast?.any Char.isDigit then 0 else 1
  if !hasExponent then (behind.length, bare)
  else if exponent < 0 then
    (behind.length + exponent.natAbs, bare + (if !hasPoint || behind.isEmpty then 1 else 0) + exponent.natAbs)
  else
    let places := behind.length - exponent.toNat
    (places, bare - (if hasPoint && places = 0 && !behind.isEmpty then 1 else 0) + Int.ofNat (exponent.toNat - behind.length))

def readSequenceWord (word : String) : Option SequenceWord :=
  match Text.Real.take word.toList with
  | some (real, []) =>
    let text := word.toList.dropWhile fun c => isBlankChar c || c = '+'
    let value := real.round sequenceBits sequenceExponents
    let isTooLarge := value.magnitude == .infinite && real.magnitude != .infinite
    let isDecimal := !text.contains 'x' && !text.contains 'X' && value.magnitude != .infinite
    let hasPlaces := isDecimal || !(text.contains '.' || text.contains 'p')
    let (places, width) := if isDecimal then writtenSize text else (0, 0)
    if isTooLarge then none else some { value, places := if hasPlaces then some places else none, width }
  | _ => none

/-- A form for numbers: the text in front of the only directive, the directive,
and the text behind it. -/
structure SequenceFormat where
  lead : Bytes
  flags : List Char
  width : Nat
  digits : Option Nat
  letter : Char
  tail : Bytes
  deriving DecidableEq, Repr

def plainFormat : Bytes → Bytes
  | 37 :: 37 :: rest => 37 :: plainFormat rest
  | b :: rest => b :: plainFormat rest
  | [] => []

/-- The text in front of the first directive of a form, and the text from
there. -/
def splitFormat : Nat → Bytes → Bytes → Bytes × Bytes
  | 0, done, rest => (done.reverse, rest)
  | bound + 1, done, rest =>
    match rest with
    | 37 :: 37 :: rest => splitFormat bound (37 :: 37 :: done) rest
    | 37 :: rest => (done.reverse, 37 :: rest)
    | b :: rest => splitFormat bound (b :: done) rest
    | [] => (done.reverse, [])

def readSequenceFormat (word : String) : Except String SequenceFormat :=
  let text := rawBytes word
  match splitFormat text.length [] text with
  | (lead, 37 :: rest) =>
    let isFlag (b : UInt8) : Bool := ['-', '+', '#', '0', ' ', '\''].any fun c => ascii c == b
    let flags := (rest.takeWhile isFlag).map fun b => Char.ofNat b.toNat
    let rest := rest.dropWhile isFlag
    let (count, width) := readDigits 10 rest.length rest
    let rest := rest.drop count
    let (digits, rest) :=
      if rest.head? == some (ascii '.') then
        let (count, digits) := readDigits 10 rest.length (rest.drop 1)
        (some digits, rest.drop (count + 1))
      else (none, rest)
    let rest := if rest.head? == some (ascii 'L') then rest.drop 1 else rest
    match rest with
    | [] => .error ("format " ++ shown word ++ " ends in %")
    | letter :: rest =>
      let letter := Char.ofNat letter.toNat
      if !(['e', 'E', 'f', 'F', 'g', 'G', 'a', 'A'].contains letter) then
        .error ("format " ++ shown word ++ " has unknown %" ++ String.singleton letter ++ " directive")
      else
        match splitFormat rest.length [] rest with
        | (_, 37 :: _) => .error ("format " ++ shown word ++ " has too many % directives")
        | (tail, _) => .ok ⟨plainFormat lead, flags, width, digits, letter, plainFormat tail⟩
  | _ => .error ("format " ++ shown word ++ " has no % directive")

def SequenceFormat.body (format : SequenceFormat) (value : Text.Real) : Bytes :=
  formatReal sequenceBits format.flags format.width format.digits format.letter value

def placesFormat (places width : Nat) : SequenceFormat :=
  { lead := [], flags := ['0'], width, digits := some places, letter := 'f', tail := [] }

def shortFormat : SequenceFormat := { lead := [], flags := [], width := 0, digits := none, letter := 'g', tail := [] }

def usualFormat (equalWidth : Bool) (first step last : SequenceWord) : SequenceFormat :=
  match first.places, step.places, last.places with
  | some firstPlaces, some stepPlaces, some lastPlaces =>
    let places := max firstPlaces stepPlaces
    let point (own : Nat) : Int := if own = 0 && places != 0 then 1 else if own != 0 && places = 0 then -1 else 0
    let firstWidth := first.width + (Int.ofNat places - firstPlaces) + (if firstPlaces = 0 && places != 0 then 1 else 0)
    let lastWidth := last.width + (Int.ofNat places - lastPlaces) + point lastPlaces
    placesFormat places (if equalWidth then (max firstWidth lastWidth).toNat else 0)
  | _, _, _ => shortFormat

/-- A sequence: where it begins and ends, and its steps. -/
structure NumberSequence where
  format : SequenceFormat
  first : Text.Real
  step : Text.Real
  last : Text.Real
  exact : Bool

namespace NumberSequence

def isBehind (sequence : NumberSequence) (value : Text.Real) : Bool :=
  if sequence.step.less .zero then value.less sequence.last else sequence.last.less value

def write (sequence : NumberSequence) (value : Text.Real) : Bytes :=
  sequence.format.lead ++ sequence.format.body value ++ sequence.format.tail

def term (sequence : NumberSequence) (index : Nat) : Text.Real :=
  let hold (value : Text.Real) : Text.Real :=
    if sequence.exact then value else value.round sequenceBits sequenceExponents
  hold (sequence.first.add (hold (sequence.step.scale index)))

/-- Whether a number just behind the end is printed: it looks like the last one, and
not like the one in front of it. -/
def isExtra (sequence : NumberSequence) (value former : Text.Real) : Bool :=
  let text := sequence.format.body value
  let read := Text.Real.take ((rawText text).toList)
  match read with
  | some (real, []) =>
    let real := real.round sequenceBits sequenceExponents
    let isLast := !real.less sequence.last && !sequence.last.less real && real.magnitude != .nan
    isLast && sequence.format.body former != text
  | _ => false

/-- So many numbers from one on, the last one first; and the next one with its index, if
there are more. -/
def numbers (sequence : NumberSequence) (separator : Bytes) :
    Nat → Nat → Text.Real → List Bytes → List Bytes × Option (Nat × Text.Real)
  | 0, index, value, done => (done, some (index, value))
  | bound + 1, index, value, done =>
    let done := sequence.write value :: done
    let next := sequence.term (index + 1)
    if !sequence.isBehind next then numbers sequence separator bound (index + 1) next (separator :: done)
    else if sequence.isExtra next value then (sequence.write next :: separator :: done, none)
    else (done, none)

end NumberSequence

/-- Prints a sequence from a number on, a hundred numbers at a time, for at most `bound`
rounds. -/
def printSequence (invocation : Invocation) (sequence : NumberSequence) (separator : Bytes) :
    Nat → Nat → Text.Real → Program
  | 0, _, _ => .exitWith 0
  | bound + 1, index, value =>
    match sequence.numbers separator 100 index value [] with
    | (pieces, none) => emitAll invocation (pieces.reverse.flatten ++ [10])
    | (pieces, some (index, value)) =>
      emit invocation pieces.reverse.flatten fun _ => printSequence invocation sequence separator bound index value

def isNegativeWord (word : String) : Bool :=
  match word.toList with
  | '-' :: c :: _ => c = '.' || c.isDigit
  | _ => false

def sequenceTable : OptionTable := {
  flags := ['w'], valued := ['s', 'f'], ordered := true, isOperand := isNegativeWord
  long := [("equal-width", 'w'), ("separator", 's'), ("format", 'f')] }

def mostExactStep : Nat := 200

def exactSequence? (words : List String) : Option NumberSequence :=
  match words.mapM number? with
  | none => none
  | some values =>
    let sequence (first step last : Nat) : Option NumberSequence :=
      if step = 0 || mostExactStep < step || last < first then none
      else some {
        format := placesFormat 0 0, first := .ofFraction first 1, step := .ofFraction step 1, last := .ofFraction last 1
        exact := true }
    match values with
    | [last] => sequence 1 1 last
    | [first, last] => sequence first 1 last
    | [first, step, last] => sequence first step last
    | _ => none

/-- Whether the numbers are whole and count upwards in small steps from no negative
one. -/
def isWhole (first step last : SequenceWord) : Bool :=
  let isPlain (word : SequenceWord) : Bool := word.places == some 0 && !word.value.negative
  let isSmall := !(Text.Real.ofFraction mostExactStep 1).less step.value && Text.Real.zero.less step.value
  isPlain first && first.value.magnitude != .infinite && isPlain last && step.places == some 0 && isSmall

def countUp : Utility := fun invocation =>
  withOptions sequenceTable invocation 1 fun options =>
    let words := options.operands
    let equalWidth := options.has 'w'
    let separator := rawBytes ((options.value? 's').getD "\n")
    let isFast := !equalWidth && !options.has 'f' && separator.length = 1
    let format := (options.value? 'f').map readSequenceFormat
    let one : SequenceWord := { value := .ofFraction 1 1, places := some 0, width := 1 }
    let read (word : String) (next : SequenceWord → Program) : Program :=
      match readSequenceWord word with
      | none => refuse invocation ("invalid floating point argument: " ++ shown word)
      | some found =>
        if found.value.magnitude == .nan then refuse invocation ("invalid 'not-a-number' argument: " ++ shown word)
        else next found
    let print (first step last : SequenceWord) : Program :=
      let exact := isFast && isWhole first step last
      let sequence : NumberSequence := {
        format := ((format.map Except.toOption).join).getD (usualFormat equalWidth first step last)
        first := first.value, step := step.value, last := last.value, exact }
      if sequence.isBehind first.value then .exitWith 0
      else printSequence invocation sequence separator Program.lifetime 0 first.value
    match words, format with
    | [], _ => refuse invocation "missing operand"
    | _ :: _ :: _ :: extra :: _, _ => refuse invocation ("extra operand " ++ shown extra)
    | _, some (.error text) => fail invocation text
    | words, format =>
      if format.isSome && equalWidth then
        refuse invocation "format string may not be specified when printing equal width strings"
      else
        match (if isFast then exactSequence? words else none) with
        | some sequence => printSequence invocation sequence separator Program.lifetime 0 sequence.first
        | none =>
          match words with
          | [last] => read last fun last => print one one last
          | [first, last] => read first fun first => read last fun last => print first one last
          | [first, step, last] =>
            read first fun first =>
              read step fun stepWord =>
                let isZero := stepWord.value.fraction?.any (·.1 == 0)
                if isZero then refuse invocation ("invalid Zero increment value: " ++ shown step)
                else read last fun last => print first stepWord last
          | _ => .exitWith 0

end PipeShell.Utility
