import PipeShell.Text.Real
import PipeShell.Text.Version
import PipeShell.Utility.Quantity

/-! # Keys

A key is a part of lines by which they are compared, and the way in which it is
compared. Text is compared byte by byte. -/

set_option autoImplicit false

namespace PipeShell.Utility

/-- Where a key begins or ends: a field, counted from 1, and a byte of it. For an
end, the byte 0 is the end of the field. -/
structure KeyPlace where
  field : Nat
  byte : Nat
  deriving DecidableEq, Repr

/-- A part of lines by which they are compared. -/
structure SortKey where
  start : KeyPlace := ⟨1, 1⟩
  stop : Option KeyPlace := none
  /-- The letters that tell how it is compared. -/
  letters : List Char := []
  /-- Whether blanks in front of the start and of the end do not count. -/
  skipStart : Bool := false
  skipStop : Bool := false
  /-- Whether it is written in the old manner. -/
  isOld : Bool := false
  deriving DecidableEq, Repr

def isBlankByte (b : UInt8) : Bool := b = 32 || b = 9 || b = 10

def foldCase (line : Bytes) : Bytes :=
  line.map fun b => if 97 ≤ b && b ≤ 122 then b - 32 else b

def dropFields (separator : Option UInt8) : Nat → Bytes → Bytes
  | 0, line => line
  | count + 1, line =>
    match separator with
    | some mark => dropFields separator count ((line.dropWhile (· != mark)).drop 1)
    | none => dropFields separator count ((line.dropWhile isBlankByte).dropWhile (!isBlankByte ·))

def keyEnd (separator : Option UInt8) (place : KeyPlace) (skip : Bool) (line : Bytes) : Nat :=
  if place.byte = 0 then
    match separator with
    | some mark =>
      let before := dropFields separator (place.field - 1) line
      line.length - before.length + (before.takeWhile (· != mark)).length
    | none => line.length - (dropFields separator place.field line).length
  else
    let before := dropFields separator (place.field - 1) line
    let before := if skip then before.dropWhile isBlankByte else before
    min line.length (line.length - before.length + place.byte)

def compareBytes : Bytes → Bytes → Ordering
  | [], [] => .eq
  | [], _ => .lt
  | _, [] => .gt
  | a :: as, b :: bs => if a < b then .lt else if b < a then .gt else compareBytes as bs

abbrev Decimal := Int × Nat

def compareDecimals (a b : Decimal) : Ordering := compare (a.1 * Nat.pow 10 b.2) (b.1 * Nat.pow 10 a.2)

/-- The sign, the digits and the number of places of a decimal number at the
beginning of a text. -/
def leadingDecimal (text : Bytes) : Decimal :=
  let body := text.dropWhile isBlankByte
  let negative := body.head? == some 45
  let body := if negative then body.drop 1 else body
  let whole := body.takeWhile Text.isDigitByte
  let rest := body.drop whole.length
  let fraction := if rest.head? == some 46 then (rest.drop 1).takeWhile Text.isDigitByte else []
  let value := Text.digitsNumber (whole ++ fraction)
  (if negative then -Int.ofNat value else Int.ofNat value, fraction.length)

def sizeRank (b : UInt8) : Nat :=
  match Char.ofNat b.toNat with
  | 'k' | 'K' => 1
  | 'M' => 2
  | 'G' => 3
  | 'T' => 4
  | 'P' => 5
  | 'E' => 6
  | 'Z' => 7
  | 'Y' => 8
  | _ => 0

/-- The digits of a number without a sign, and what follows them. A point without
digits behind it belongs to the number. -/
def rawNumber (text : Bytes) : Bytes × Bytes :=
  let whole := text.takeWhile Text.isDigitByte
  match text.drop whole.length with
  | 46 :: rest =>
    let fraction := rest.takeWhile Text.isDigitByte
    (whole ++ fraction, rest.drop fraction.length)
  | rest => (whole, rest)

def unitRank (text : Bytes) : Int :=
  let body := text.dropWhile isBlankByte
  let negative := body.head? == some 45
  let (digits, rest) := rawNumber (if negative then body.drop 1 else body)
  let rank := Int.ofNat ((rest.head?.map sizeRank).getD 0)
  if digits.all (· = 48) then 0 else if negative then -rank else rank

def monthRank (text : Bytes) : Nat :=
  let name := foldCase ((text.dropWhile isBlankByte).take 3)
  let names := ["JAN", "FEB", "MAR", "APR", "MAY", "JUN", "JUL", "AUG", "SEP", "OCT", "NOV", "DEC"]
  ((names.zipIdx.find? fun (month, _) => rawBytes month == name).map fun (_, index) => index + 1).getD 0

def generalRank (text : Bytes) : Nat × Int × Nat :=
  match Text.Real.take (rawText text).toList with
  | none => (0, 0, 1)
  | some (real, _) =>
    match (real.round 64 16384).magnitude with
    | .nan => (if real.negative then 2 else 1, 0, 1)
    | .infinite => if real.negative then (3, 0, 1) else (5, 0, 1)
    | .finite num den => (4, if real.negative then -Int.ofNat num else Int.ofNat num, den)

/-- What a part of a line is worth when it is compared. -/
inductive SortValue where
  | text (bytes : Bytes)
  | number (decimal : Decimal)
  | size (rank : Int) (decimal : Decimal)
  | general (rank : Nat) (num : Int) (den : Nat)
  | month (rank : Nat)
  | version (bytes : Bytes)
  deriving DecidableEq, Repr

def SortValue.compare : SortValue → SortValue → Ordering
  | .text a, .text b => compareBytes a b
  | .number a, .number b => compareDecimals a b
  | .size a x, .size b y => (Ord.compare a b).then (compareDecimals x y)
  | .general a x m, .general b y n => (Ord.compare a b).then (Ord.compare (x * Int.ofNat n) (y * Int.ofNat m))
  | .month a, .month b => Ord.compare a b
  | .version a, .version b => Text.compareVersions a b
  | _, _ => .eq

namespace SortKey

def has (key : SortKey) (letter : Char) : Bool := key.letters.contains letter

def isPlain (key : SortKey) : Bool := key.letters.all (· == 'r') && !key.skipStart && !key.skipStop

def isFromStart (key : SortKey) : Bool := key.start == ⟨1, 1⟩

def isNumeric (key : SortKey) : Bool := key.has 'n' || key.has 'g' || key.has 'h'

def span (key : SortKey) (separator : Option UInt8) (line : Bytes) : Nat × Nat :=
  let rest := dropFields separator (key.start.field - 1) line
  let rest := if key.skipStart then rest.dropWhile isBlankByte else rest
  let start := line.length - (rest.drop (key.start.byte - 1)).length
  (start, key.stop.elim line.length fun place => keyEnd separator place key.skipStop line)

def slice (key : SortKey) (separator : Option UInt8) (line : Bytes) : Bytes :=
  let (start, stop) := key.span separator line
  (line.take stop).drop start

def counted (key : SortKey) (text : Bytes) : Bytes :=
  let text :=
    if key.has 'd' then text.filter fun b => isBlankByte b || Text.inAsciiClass "alnum" b.toNat
    else if key.has 'i' then text.filter isPrintableByte
    else text
  if key.has 'f' then foldCase text else text

def value (key : SortKey) (separator : Option UInt8) (line : Bytes) : SortValue :=
  let text := key.counted (key.slice separator line)
  if key.has 'n' then .number (leadingDecimal text)
  else if key.has 'h' then .size (unitRank text) (leadingDecimal text)
  else if key.has 'g' then
    let (rank, num, den) := generalRank text
    .general rank num den
  else if key.has 'M' then .month (monthRank text)
  else if key.has 'V' then .version text
  else .text text

/-- The letters of a key that say how it is compared, in the order in which they are
shown. -/
def shownLetters (key : SortKey) : String :=
  String.ofList ((if key.skipStart || key.skipStop then ['b'] else []) ++
    ['d', 'f', 'g', 'h', 'i', 'M', 'n', 'R', 'r', 'V'].filter fun letter =>
      key.has letter && !(letter = 'i' && key.has 'd'))

def isContradictory (key : SortKey) : Bool :=
  let ways : List Bool :=
    [key.has 'n', key.has 'g', key.has 'h', key.has 'M', key.has 'V' || key.has 'R' || key.has 'd' || key.has 'i']
  1 < ways.count true

end SortKey

/-- A number of a key: blanks and a plus sign may stand in front of it. -/
def readKeyNumber (what : String) (text : List Char) : Except String (Nat × List Char) :=
  let body := text.dropWhile isBlankChar
  let body := if body.head? == some '+' then body.tail else body
  let digits := body.takeWhile Char.isDigit
  match number? (String.ofList digits) with
  | some number => .ok (number, body.drop digits.length)
  | none => .error (what ++ ": invalid count at start of " ++ shown (String.ofList text))

def isKeyLetter (c : Char) : Bool := ['b', 'd', 'f', 'g', 'h', 'i', 'M', 'n', 'R', 'r', 'V'].contains c

def badKey (what word : String) : String := what ++ ": invalid field specification " ++ shown word

def readKeyByte (text : List Char) : Except String (Option Nat × List Char) :=
  match text with
  | '.' :: rest => (readKeyNumber "invalid number after '.'" rest).map fun (byte, rest) => (some byte, rest)
  | rest => .ok (none, rest)

def readSortKey (word : String) : Except String SortKey := do
  let (field, rest) ← readKeyNumber "invalid number at field start" word.toList
  if field = 0 then .error (badKey "field number is zero" word)
  let (byte, rest) ← readKeyByte rest
  if byte == some 0 then .error (badKey "character offset is zero" word)
  let letters := rest.takeWhile isKeyLetter
  let key : SortKey := {
    start := ⟨field, byte.getD 1⟩, letters := letters.filter (· != 'b'), skipStart := letters.contains 'b' }
  match rest.drop letters.length with
  | [] => return key
  | ',' :: rest => do
    let (field, rest) ← readKeyNumber "invalid number after ','" rest
    if field = 0 then .error (badKey "field number is zero" word)
    let (byte, rest) ← readKeyByte rest
    let letters := rest.takeWhile isKeyLetter
    if !(rest.drop letters.length).isEmpty then .error (badKey "stray character in field spec" word)
    return { key with
      stop := some ⟨field, byte.getD 0⟩, letters := key.letters ++ letters.filter (· != 'b')
      skipStop := letters.contains 'b' }
  | _ => .error (badKey "stray character in field spec" word)

/-- Reads a key in the old manner such as `+1.2n`; nothing if it is none. Its fields
and bytes are counted from 0. -/
def readOldStart? (word : String) : Option SortKey :=
  match word.toList with
  | '+' :: rest =>
    match readKeyNumber "" rest with
    | .error _ => none
    | .ok (field, rest) =>
      match readKeyByte rest with
      | .error _ => none
      | .ok (byte, rest) =>
        if rest.all isKeyLetter then
          some {
            start := ⟨field + 1, byte.getD 0 + 1⟩, letters := rest.filter (· != 'b'), skipStart := rest.contains 'b'
            isOld := true }
        else none
  | _ => none

def readOldStop (key : SortKey) (word : String) : Except String SortKey := do
  let (field, rest) ← readKeyNumber "invalid number after '-'" (word.toList.drop 1)
  let (byte, letters) ← readKeyByte rest
  let byte := byte.getD 0
  if !letters.all isKeyLetter then .error (badKey "stray character in field spec" word)
  return { key with
    stop := some (if byte = 0 then ⟨max field 1, 0⟩ else ⟨field + 1, byte⟩)
    letters := key.letters ++ letters.filter (· != 'b'), skipStop := letters.contains 'b' }

end PipeShell.Utility
