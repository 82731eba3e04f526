/-! # Comparing texts

Without regard to case, and for the parts of a text. -/

set_option autoImplicit false

namespace PipeShell.Text

/-- Whether two texts differ at most in the case of ASCII letters. -/
def equalsIgnoringCase (a b : String) : Bool := a.toList.map Char.toLower == b.toList.map Char.toLower

def hasPart (part : List Char) : List Char → Bool
  | [] => part.isEmpty
  | c :: rest => part.isPrefixOf (c :: rest) || hasPart part rest

def containsPart (text part : String) : Bool := hasPart part.toList text.toList

end PipeShell.Text
