import PipeShell.Text.Utf8

/-! # Text that keeps every byte

Words and names are text, and yet any bytes may occur in them. A byte that is no
part of a UTF-8 character is kept as a character of its own, out of a range that
is meant for private use; and so are the bytes of whoever writes such a character,
so that no byte is ever taken for another. -/

set_option autoImplicit false

namespace PipeShell

namespace Text

/-- The character that stands for a byte which is no part of a character. -/
def standIn (b : UInt8) : Char := Char.ofNat (0x10F700 + b.toNat)

/-- The byte for which a character stands, if it stands for one. -/
def standsFor? (c : Char) : Option UInt8 :=
  if 0x10F780 ≤ c.toNat && c.toNat ≤ 0x10F7FF then some (c.toNat - 0x10F700).toUInt8 else none

def rawChar (c : Char) : Bytes :=
  match standsFor? c with
  | some b => [b]
  | none => String.utf8EncodeChar c

/-- A decoder between two bytes that keeps every byte. -/
structure RawDecoder where
  /-- The characters decoded so far, the last one first. -/
  decoded : List Char := []
  /-- The bytes of the character that is being read, the last one first. -/
  pending : Bytes := []
  /-- What is still to come of that character. -/
  owed : Option Owed := none

namespace RawDecoder

def reject (decoder : RawDecoder) : RawDecoder := { decoded := decoder.pending.map standIn ++ decoder.decoded }

def accept (decoder : RawDecoder) (c : Char) : RawDecoder :=
  if (standsFor? c).isSome then decoder.reject else { decoded := c :: decoder.decoded }

def begin (decoder : RawDecoder) (b : UInt8) : RawDecoder :=
  if b < 0x80 then { decoder with decoded := Char.ofNat b.toNat :: decoder.decoded }
  else
    match Owed.ofLead b with
    | some owed => { decoder with pending := [b], owed := some owed }
    | none => { decoder with decoded := standIn b :: decoder.decoded }

def read (decoder : RawDecoder) (b : UInt8) : RawDecoder :=
  match decoder.owed with
  | none => decoder.begin b
  | some owed =>
    if owed.low ≤ b && b ≤ owed.high then
      let bits := owed.bits * 64 + (b.toNat - 0x80)
      let decoder := { decoder with pending := b :: decoder.pending }
      if owed.count ≤ 1 then decoder.accept (Char.ofNat bits)
      else { decoder with owed := some ⟨owed.count - 1, 0x80, 0xBF, bits⟩ }
    else decoder.reject.begin b

end RawDecoder

end Text

/-- The bytes of a text in which some characters may stand for single bytes. -/
def rawBytes (text : String) : Bytes := text.toList.flatMap Text.rawChar

def rawText (bytes : Bytes) : String :=
  String.ofList ((bytes.foldl Text.RawDecoder.read {}).reject.decoded).reverse

end PipeShell
