import PipeShell.Text.Utf8

/-! # Backslash escapes

How backslashes in the arguments of printing programs are read. The programs
agree on the letters for control characters and differ in the rest. -/

set_option autoImplicit false

namespace PipeShell.Utility

structure EscapeDialect where
  /-- Whether octal digits count without a zero in front of them. -/
  bareOctal : Bool
  /-- Whether a zero may stand in front of three octal digits. -/
  leadingZero : Bool
  /-- Whether `\x` begins a number in base 16. -/
  hexadecimal : Bool
  escapeLetter : Bool
  quote : Bool
  stops : Bool := true
  /-- Whether `\u` and `\U` name characters, and numbers must have their
  digits. -/
  characters : Bool := false
  deriving DecidableEq, Repr

structure Unescaped where
  bytes : Bytes
  stopped : Bool
  /-- What is wrong with the text where reading it ended. -/
  fault : Option String := none
  deriving DecidableEq, Repr

def ascii (c : Char) : UInt8 := c.toNat.toUInt8

def digitValue? (base : Nat) (b : UInt8) : Option Nat :=
  let value :=
    if ascii '0' ≤ b && b ≤ ascii '9' then b.toNat - 48
    else if ascii 'a' ≤ b && b ≤ ascii 'f' then b.toNat - 87
    else if ascii 'A' ≤ b && b ≤ ascii 'F' then b.toNat - 55
    else base
  if value < base then some value else none

/-- At most `limit` digits from the beginning: how many there are, and the
number they make. -/
def readDigits (base limit : Nat) (bytes : Bytes) : Nat × Nat :=
  let digits := ((bytes.take limit).map (digitValue? base)).takeWhile Option.isSome
  (digits.length, digits.foldl (fun value digit => value * base + digit.getD 0) 0)

def controlByte? (dialect : EscapeDialect) (letter : UInt8) : Option UInt8 :=
  if letter = ascii 'a' then some 7
  else if letter = ascii 'b' then some 8
  else if letter = ascii 'f' then some 12
  else if letter = ascii 'n' then some 10
  else if letter = ascii 'r' then some 13
  else if letter = ascii 't' then some 9
  else if letter = ascii 'v' then some 11
  else if letter = ascii '\\' then some 92
  else if dialect.escapeLetter && letter = ascii 'e' then some 27
  else if dialect.quote && letter = ascii '"' then some 34
  else none

/-- What a backslash and the characters behind it mean. -/
inductive Escape where
  /-- Some bytes, in place of so many characters. -/
  | bytes (data : Bytes) (taken : Nat)
  | stop
  | faulty (text : String)
  deriving DecidableEq, Repr

def hexText (width value : Nat) : String :=
  let digits := Nat.toDigits 16 value
  String.ofList (List.replicate (width - digits.length) '0' ++ digits)

/-- A character that is named by its number. Only those of ASCII are written as they
are, and most of them must not be named. -/
def namedCharacter (letter : Char) (width value : Nat) : Escape :=
  let isPlain := value = 0x24 || value = 0x40 || value = 0x60
  let isBad := (value ≤ 0x9f && !isPlain) || (0xd800 ≤ value && value ≤ 0xdfff)
  if isBad then
    .faulty ("invalid universal character name \\" ++ String.singleton letter ++ hexText width value)
  else if isPlain then .bytes [value.toUInt8] (width + 1)
  else if value < 0x10000 then .bytes (Text.encode ("\\u" ++ (hexText 4 value).toUpper).toList) (width + 1)
  else .bytes (Text.encode ("\\U" ++ (hexText 8 value).toUpper).toList) (width + 1)

def readEscape (dialect : EscapeDialect) (rest : Bytes) : Escape :=
  match rest with
  | [] => .bytes [92] 0
  | letter :: behind =>
    let isName := dialect.characters && (letter = ascii 'u' || letter = ascii 'U')
    if dialect.stops && letter = ascii 'c' then .stop
    else if isName then
      let width := if letter = ascii 'u' then 4 else 8
      let (count, value) := readDigits 16 width behind
      if count < width then .faulty "missing hexadecimal number in escape"
      else namedCharacter (Char.ofNat letter.toNat) width value
    else
      match controlByte? dialect letter with
      | some b => .bytes [b] 1
      | none =>
        if dialect.leadingZero && letter = ascii '0' then
          let (count, value) := readDigits 8 3 behind
          .bytes [value.toUInt8] (count + 1)
        else
          let (octals, octal) := readDigits 8 3 rest
          let (digits, value) := readDigits 16 2 behind
          if dialect.bareOctal && octals != 0 then .bytes [octal.toUInt8] octals
          else if dialect.hexadecimal && letter = ascii 'x' && digits != 0 then .bytes [value.toUInt8] (digits + 1)
          else if dialect.characters && letter = ascii 'x' then .faulty "missing hexadecimal number in escape"
          else .bytes [92] 0

/-- The bytes of a text with its escapes replaced. `skip` characters belong to
an escape that was already read. -/
def unescapeFrom (dialect : EscapeDialect) (skip : Nat) : Bytes → Unescaped
  | [] => { bytes := [], stopped := false }
  | b :: rest =>
    match skip with
    | skip + 1 => unescapeFrom dialect skip rest
    | 0 =>
      if b = 92 then
        match readEscape dialect rest with
        | .stop => { bytes := [], stopped := true }
        | .faulty text => { bytes := [], stopped := true, fault := some text }
        | .bytes bytes taken =>
          let after := unescapeFrom dialect taken rest
          { after with bytes := bytes ++ after.bytes }
      else
        let after := unescapeFrom dialect 0 rest
        { after with bytes := b :: after.bytes }

def unescape (dialect : EscapeDialect) (bytes : Bytes) : Unescaped := unescapeFrom dialect 0 bytes

end PipeShell.Utility
