import PipeShell.Text.Raw

/-! # Words in messages

How utilities show the words they complain about and the names they list. There are
three forms: bytes as they are; text in which a backslash stands in front of what has a
meaning, with a mark at both ends; and words as the command interpreter would read them.
A style is a form together with the question whether it is only used where a word would
be misread otherwise. -/

set_option autoImplicit false

namespace PipeShell.Utility

def byteEscape (b : UInt8) : String :=
  match b with
  | 7 => "\\a"
  | 8 => "\\b"
  | 9 => "\\t"
  | 10 => "\\n"
  | 11 => "\\v"
  | 12 => "\\f"
  | 13 => "\\r"
  | b =>
    let digit (n : Nat) : Char := Char.ofNat (48 + n % 8)
    String.ofList ['\\', digit (b.toNat / 64), digit (b.toNat / 8), digit b.toNat]

def isPrintableByte (b : UInt8) : Bool := 32 ≤ b && b < 127

def isPlainByte (b : UInt8) : Bool :=
  (Char.ofNat b.toNat).isAlphanum || ['%', '+', ',', '-', '.', '/', ':', ']', '_', '@'].contains (Char.ofNat b.toNat)

/-- Whether a byte means something to the command interpreter only because of where it
stands: at the beginning, or as the whole word. -/
def isPlacedByte (b : UInt8) (isFirst isLone : Bool) : Bool :=
  let c := Char.ofNat b.toNat
  ((c = '#' || c = '~') && isFirst) || ((c = '\x7b' || c = '\x7d') && isLone)

inductive QuoteForm where
  | bare
  /-- A backslash stands in front of what has a meaning; a mark stands at both ends. -/
  | backslashed (mark : Option UInt8)
  /-- As the command interpreter would read it, with escapes for what cannot be printed
  or without them. -/
  | shell (escapes : Bool)
  deriving DecidableEq, Repr

structure QuotingStyle where
  form : QuoteForm
  /-- A word that cannot be misread is left as it is. -/
  sparing : Bool := false
  deriving DecidableEq, Repr

namespace QuoteForm

/-- Whether a word could not stand without quotes, because of what it holds or because of
some further bytes. -/
def isNeeded (form : QuoteForm) (further word : Bytes) : Bool :=
  let isLone := word.length = 1
  let indexed := word.zipIdx
  match form with
  | .bare => false
  | .backslashed mark => word.any fun b => !isPrintableByte b || mark == some b || further.contains b
  | .shell escapes =>
    word.isEmpty || indexed.any fun (b, index) =>
      further.contains b ||
        if isPrintableByte b then
          !isPlainByte b && !isPlacedByte b (index != 0) (!isLone)
        else escapes || b = 9 || b = 10 || b = 13

def backslashedByte (mark : Option UInt8) (further : Bytes) (b : UInt8) : Bytes :=
  if !isPrintableByte b then rawBytes (byteEscape b)
  else if b = 92 || mark == some b || further.contains b then [92, b]
  else [b]

def isTame (word : Bytes) : Bool :=
  word.zipIdx.all fun (b, index) =>
    isPlainByte b || b = 32 || b = 39 || isPlacedByte b (index = 0) (word.length = 1)

/-- What stands between the single quotes around a word. An escape is written outside of
them, and it is known whether one has just been written. -/
def shellBytes (escapes : Bool) : Bool → Bytes → Bytes
  | _, [] => []
  | isOpen, b :: rest =>
    if b = 39 then [39, 92, 39, 39] ++ shellBytes escapes false rest
    else if escapes && !isPrintableByte b then
      (if isOpen then [] else [39, 36, 39]) ++ rawBytes (byteEscape b) ++ shellBytes escapes true rest
    else (if isOpen then [39, 39] else []) ++ b :: shellBytes escapes false rest

/-- A word in this form, with backslashes in front of some further bytes as well where the
form has any. A word with a single quote that ends in an escape begins as if it stood
behind one. -/
def write (form : QuoteForm) (further word : Bytes) : Bytes :=
  match form with
  | .bare => word
  | .backslashed mark => mark.toList ++ word.flatMap (backslashedByte mark further) ++ mark.toList
  | .shell escapes =>
    if word.contains 39 && isTame word then
      [34] ++ word.flatMap (backslashedByte (some 34) further) ++ [34]
    else
      let isOpen := escapes && word.contains 39 && word.getLast?.any (!isPrintableByte ·)
      [39] ++ shellBytes escapes isOpen word ++ [39]

end QuoteForm

namespace QuotingStyle

/-- A word as it is shown. Some further bytes count as such that have a meaning. -/
def quoted (style : QuotingStyle) (further word : Bytes) : Bytes :=
  if !style.sparing then style.form.write further word
  else if style.form.isNeeded further word then style.form.write [] word
  else word

def literal : QuotingStyle := ⟨.bare, false⟩

def shellEscape : QuotingStyle := ⟨.shell true, true⟩

def shellEscapeAlways : QuotingStyle := ⟨.shell true, false⟩

def escape : QuotingStyle := ⟨.backslashed none, false⟩

def locale : QuotingStyle := ⟨.backslashed (some 39), false⟩

def doubled : QuotingStyle := ⟨.backslashed (some 34), false⟩

end QuotingStyle

def shown (word : String) : String := rawText (QuotingStyle.locale.quoted [] (rawBytes word))

def shownPath (path : String) : String := rawText (QuotingStyle.shellEscapeAlways.quoted [] (rawBytes path))

/-- A word as it is, or in quotes if the command interpreter would not read it
again otherwise, or if it has one of some further characters. -/
def unquotedOr (further : List Char) (word : String) : String :=
  rawText (QuotingStyle.shellEscape.quoted (rawBytes (String.ofList further)) (rawBytes word))

/-- A path in front of a colon: in quotes if it needs them or has a colon
itself. -/
def pathText (path : String) : String := unquotedOr [':'] path

end PipeShell.Utility
