/-! # Ranges of code points

A property of characters is stored as the list of the ranges of code points that
have it, in increasing order, both ends of a range included. The classes that patterns
know by name hold ASCII characters only. -/

set_option autoImplicit false

namespace PipeShell.Text

def inRanges (point : Nat) : List (Nat × Nat) → Bool
  | [] => false
  | (first, last) :: rest => if point < first then false else point ≤ last || inRanges point rest

/-! ## Named classes -/

/-- The code points of a named class, as ranges. -/
def asciiClass? (name : String) : Option (List (Nat × Nat)) :=
  match name with
  | "alpha" => some [(65, 90), (97, 122)]
  | "digit" => some [(48, 57)]
  | "alnum" => some [(48, 57), (65, 90), (97, 122)]
  | "upper" => some [(65, 90)]
  | "lower" => some [(97, 122)]
  | "space" => some [(9, 13), (32, 32)]
  | "blank" => some [(9, 9), (32, 32)]
  | "punct" => some [(33, 47), (58, 64), (91, 96), (123, 126)]
  | "print" => some [(32, 126)]
  | "graph" => some [(33, 126)]
  | "cntrl" => some [(0, 31), (127, 127)]
  | "xdigit" => some [(48, 57), (65, 70), (97, 102)]
  | _ => none

def inAsciiClass (name : String) (point : Nat) : Bool := ((asciiClass? name).map (inRanges point)).getD false

end PipeShell.Text
