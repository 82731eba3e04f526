/-! # Blank characters

The characters with the Unicode property `White_Space`, and the three ways a
line uses them: trimming its ends, skipping to the next visible character, and
splitting it into fields. Zero-width characters such as U+200B and U+FEFF are
not blank, and neither are the control characters U+001C to U+001F. -/

set_option autoImplicit false

namespace PipeShell.Text

/-- The ranges of the property `White_Space`, in increasing order, both ends
included. -/
def blankRanges : List (Nat × Nat) :=
  [(0x09, 0x0D), (0x20, 0x20), (0x85, 0x85), (0xA0, 0xA0), (0x1680, 0x1680), (0x2000, 0x200A),
    (0x2028, 0x2029), (0x202F, 0x202F), (0x205F, 0x205F), (0x3000, 0x3000)]

def isBlank (c : Char) : Bool :=
  blankRanges.any fun range => range.1 ≤ c.toNat && c.toNat ≤ range.2

/-- The text without the blanks at its beginning. -/
def trimStart (text : List Char) : List Char :=
  text.dropWhile isBlank

/-- The text without the blanks at its end. -/
def trimEnd (text : List Char) : List Char :=
  (text.reverse.dropWhile isBlank).reverse

/-- The text without the blanks at either end. -/
def trim (text : List Char) : List Char :=
  trimEnd (trimStart text)

/-- One character in front of fields already split: a blank closes the field in
front, any other character joins it. The flag tells whether the front field is
still open. -/
def consField (c : Char) : Bool × List (List Char) → Bool × List (List Char)
  | (opened, split) =>
    if isBlank c then (false, split)
    else
      match opened, split with
      | true, front :: rest => (true, (c :: front) :: rest)
      | _, split => (true, [c] :: split)

/-- The maximal runs of visible characters, in order. -/
def fields (text : List Char) : List (List Char) :=
  (text.foldr consField (false, [])).2

end PipeShell.Text
