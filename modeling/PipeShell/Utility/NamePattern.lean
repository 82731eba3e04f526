import PipeShell.Script.Pattern

/-! # Kinds of file names

Patterns that tell which files are meant. A backslash takes the meaning off the byte
behind it, also in a set, and either of two signs negates a set. -/

set_option autoImplicit false

namespace PipeShell.Utility

def markEscapes : Nat → Bytes → List Script.Marked
  | 0, _ => []
  | _ + 1, [] => []
  | bound + 1, b :: rest =>
    match b, rest with
    | 92, quoted :: rest => (quoted, true) :: markEscapes bound rest
    | b, rest => (b, false) :: markEscapes bound rest

def isNamedBy (pattern name : String) : Bool :=
  let text := rawBytes pattern
  Script.covers (Script.patternItems (markEscapes (text.length + 1) text) ['!', '^']) (rawBytes name)

/-- Whether a name is of that kind, and a dot at its beginning is one of the pattern's
too. -/
def isOpenlyNamedBy (pattern name : String) : Bool :=
  isNamedBy pattern name && (name.toList.head? != some '.' || ['.', '\\'].contains (pattern.toList.headD ' '))

end PipeShell.Utility
