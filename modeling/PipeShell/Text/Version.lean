import PipeShell.Text.Ranges

/-! # Names with versions

The order of names that hold version numbers. Runs of digits are compared as
numbers, and what is between them byte by byte: letters come before other bytes, the
end of a name before letters, and a tilde before the end. Endings of files count only
if nothing else differs. -/

set_option autoImplicit false

namespace PipeShell.Text

def isDigitByte (b : UInt8) : Bool := 48 ≤ b && b ≤ 57

def isLetterByte (b : UInt8) : Bool := inAsciiClass "alpha" b.toNat

/-- The rank of a byte between numbers, or of the end. -/
def versionRank : Option UInt8 → Int
  | none => -1
  | some b =>
    if isDigitByte b then 0
    else if isLetterByte b then Int.ofNat b.toNat
    else if b = 126 then -2
    else Int.ofNat b.toNat + 256

def digitsNumber (digits : List UInt8) : Nat := digits.foldl (fun value b => value * 10 + (b.toNat - 48)) 0

/-- Compares names part by part, at most `bound` parts. -/
def compareParts : Nat → List UInt8 → List UInt8 → Ordering
  | 0, _, _ => .eq
  | bound + 1, a, b =>
    if a.isEmpty && b.isEmpty then .eq
    else if a.head?.any (!isDigitByte ·) || b.head?.any (!isDigitByte ·) then
      match compare (versionRank a.head?) (versionRank b.head?) with
      | .eq => compareParts bound a.tail b.tail
      | order => order
    else
      match compare (digitsNumber (a.takeWhile isDigitByte)) (digitsNumber (b.takeWhile isDigitByte)) with
      | .eq => compareParts bound (a.dropWhile isDigitByte) (b.dropWhile isDigitByte)
      | order => order

/-- What is left of a name behind its endings that start here, at most `bound` of
them. An ending is a dot with a letter and further letters and digits. -/
def skipEndings : Nat → List UInt8 → List UInt8
  | 0, name => name
  | bound + 1, name =>
    match name with
    | 46 :: c :: rest =>
      if isLetterByte c || c = 126 then
        skipEndings bound (rest.dropWhile fun b => isLetterByte b || isDigitByte b || b = 126)
      else name
    | _ => name

/-- How long a name is without the endings at its end; the first byte is never part
of them. -/
def stemLength (bound : Nat) : Nat → List UInt8 → Nat
  | _, [] => 0
  | place, _ :: rest =>
    if (skipEndings bound rest).isEmpty then place + 1 else stemLength bound (place + 1) rest

def compareVersions (a b : List UInt8) : Ordering :=
  let rank (name : List UInt8) : Nat :=
    match name with
    | [] => 0
    | [46] => 1
    | [46, 46] => 2
    | 46 :: _ => 3
    | _ => 4
  match compare (rank a) (rank b) with
  | .eq =>
    let bound := a.length + b.length + 1
    let stemA := a.take (stemLength (a.length + 1) 0 a)
    let stemB := b.take (stemLength (b.length + 1) 0 b)
    match compareParts bound stemA stemB with
    | .eq => compareParts bound a b
    | order => order
  | order => order

end PipeShell.Text
