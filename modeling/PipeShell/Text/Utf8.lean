/-! # UTF-8

Encoding of text and the decoding of arbitrary bytes. The decoder reads one byte
at a time, so what it has done so far depends on nothing that follows. Wherever
the bytes stop being a possible beginning of a character, the bytes read for it
count as one malformed unit: the lossy decoding writes U+FFFD for each such
unit, the strict decoding refuses the whole text. -/

set_option autoImplicit false

namespace PipeShell

/-- A string of bytes: the content of a file or a part of a stream. -/
abbrev Bytes := List UInt8

namespace Text

def encode (text : List Char) : Bytes :=
  text.flatMap String.utf8EncodeChar

def replacement : Char := '\uFFFD'

/-- A character whose first bytes were read. -/
structure Owed where
  /-- How many bytes are still to come; at least one. -/
  count : Nat
  /-- The least value the next byte may have. -/
  low : UInt8
  /-- The greatest value the next byte may have. -/
  high : UInt8
  bits : Nat
  deriving DecidableEq, Repr

/-- What a byte that begins a character of two or more bytes announces. The
bounds on the second byte leave out overlong forms, surrogates and values above
U+10FFFF. -/
def Owed.ofLead (b : UInt8) : Option Owed :=
  if b < 0xC2 then none
  else if b ≤ 0xDF then some ⟨1, 0x80, 0xBF, b.toNat - 0xC0⟩
  else if b = 0xE0 then some ⟨2, 0xA0, 0xBF, 0⟩
  else if b = 0xED then some ⟨2, 0x80, 0x9F, 0xD⟩
  else if b ≤ 0xEF then some ⟨2, 0x80, 0xBF, b.toNat - 0xE0⟩
  else if b = 0xF0 then some ⟨3, 0x90, 0xBF, 0⟩
  else if b ≤ 0xF3 then some ⟨3, 0x80, 0xBF, b.toNat - 0xF0⟩
  else if b = 0xF4 then some ⟨3, 0x80, 0x8F, 4⟩
  else none

/-- The decoder between two bytes. -/
structure Decoder where
  /-- The characters decoded so far, the last one first. -/
  decoded : List Char
  /-- The character that is being read, if any. -/
  owed : Option Owed
  malformed : Bool
  deriving DecidableEq, Repr

namespace Decoder

def start : Decoder := ⟨[], none, false⟩

def emit (decoder : Decoder) (c : Char) : Decoder :=
  { decoder with decoded := c :: decoder.decoded, owed := none }

/-- The bytes read for the current character are a malformed unit. -/
def reject (decoder : Decoder) : Decoder :=
  { decoder.emit replacement with malformed := true }

def begin (decoder : Decoder) (b : UInt8) : Decoder :=
  if b < 0x80 then decoder.emit (Char.ofNat b.toNat)
  else
    match Owed.ofLead b with
    | some owed => { decoder with owed := some owed }
    | none => decoder.reject

/-- Reads one byte. A byte that cannot continue the current character ends it
as a malformed unit and is read again as the beginning of the next one. -/
def read (decoder : Decoder) (b : UInt8) : Decoder :=
  match decoder.owed with
  | none => decoder.begin b
  | some owed =>
    if owed.low ≤ b && b ≤ owed.high then
      let bits := owed.bits * 64 + (b.toNat - 0x80)
      if owed.count ≤ 1 then decoder.emit (Char.ofNat bits)
      else { decoder with owed := some ⟨owed.count - 1, 0x80, 0xBF, bits⟩ }
    else decoder.reject.begin b

/-- No byte follows: a character that is still owed bytes is malformed. -/
def close (decoder : Decoder) : Decoder :=
  match decoder.owed with
  | none => decoder
  | some _ => decoder.reject

def readAll (bytes : Bytes) : Decoder :=
  (bytes.foldl read start).close

end Decoder

/-- The text of the bytes, with U+FFFD for each malformed unit. -/
def decodeLossy (bytes : Bytes) : List Char :=
  (Decoder.readAll bytes).decoded.reverse

def decode? (bytes : Bytes) : Option (List Char) :=
  let decoder := Decoder.readAll bytes
  if decoder.malformed then none else some decoder.decoded.reverse

end Text

def bytesOf (text : String) : Bytes := Text.encode text.toList

end PipeShell
