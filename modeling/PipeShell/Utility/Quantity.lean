import PipeShell.Utility.Options

/-! # Numbers with units

How utilities read the numbers they are given. A number may be followed by a letter
that multiplies it, and some letters by another one that tells whether they stand
for powers of 1024 or of 1000. -/

set_option autoImplicit false

namespace PipeShell.Utility

def number? (word : String) : Option Nat :=
  let digits := word.toList
  if digits.isEmpty || !digits.all Char.isDigit then none
  else some (digits.foldl (fun value c => value * 10 + (c.toNat - '0'.toNat)) 0)

def integer? (word : String) : Option Int :=
  match word.toList with
  | '-' :: digits => (number? (String.ofList digits)).map fun value => -(Int.ofNat value)
  | '+' :: digits => (number? (String.ofList digits)).map Int.ofNat
  | _ => (number? word).map Int.ofNat

def largestCount : Int := 18446744073709551615

def largestInteger : Int := 9223372036854775807

structure QuantityRule where
  /-- What is said about a word that gives none of them. -/
  complaint : String
  least : Int := 0
  most : Int := largestCount
  /-- The letters that may follow the digits; a zero among them allows for a second
  letter. -/
  units : List Char := []
  /-- The numbers may have a minus sign. -/
  signed : Bool := false

/-- What is wrong with a word that should give a number. -/
inductive QuantityFault where
  | malformed
  | tooLarge
  | outOfRange
  deriving DecidableEq, Repr

def QuantityFault.reason : QuantityFault → String
  | .malformed => ""
  | .tooLarge => ": Value too large for defined data type"
  | .outOfRange => ": Numerical result out of range"

def isBlankChar (c : Char) : Bool := c = ' ' || ('\t' ≤ c && c ≤ '\r')

def unitPower? (letter : Char) : Option Nat :=
  match letter with
  | 'k' | 'K' => some 1
  | 'm' | 'M' => some 2
  | 'g' | 'G' => some 3
  | 't' | 'T' => some 4
  | 'P' => some 5
  | 'E' => some 6
  | 'Z' => some 7
  | 'Y' => some 8
  | 'R' => some 9
  | 'Q' => some 10
  | _ => none

/-- What the letters behind a number multiply it by, and the letters behind
them. -/
def unitFactor? (units : List Char) : List Char → Option (Nat × List Char)
  | [] => some (1, [])
  | letter :: rest =>
    if !units.contains letter then none
    else
      match letter, unitPower? letter with
      | 'b', _ => some (512, rest)
      | 'B', _ => some (1024, rest)
      | 'c', _ => some (1, rest)
      | 'w', _ => some (2, rest)
      | _, none => none
      | _, some power =>
        match units.contains '0', rest with
        | true, 'i' :: 'B' :: rest => some (Nat.pow 1024 power, rest)
        | true, 'B' :: rest => some (Nat.pow 1000 power, rest)
        | true, 'D' :: rest => some (Nat.pow 1000 power, rest)
        | _, rest => some (Nat.pow 1024 power, rest)

def QuantityRule.read (rule : QuantityRule) (word : String) : Except QuantityFault Int :=
  let text := word.toList
  let body := text.dropWhile isBlankChar
  let (negative, body) : Bool × List Char :=
    match body with
    | '-' :: body => (true, body)
    | '+' :: body => (false, body)
    | body => (false, body)
  let digits := body.takeWhile Char.isDigit
  if negative && !rule.signed then .error .malformed
  else if digits.isEmpty && !text.head?.any rule.units.contains then .error .malformed
  else
    let magnitude := if digits.isEmpty then 1 else (number? (String.ofList digits)).getD 0
    let behind := if digits.isEmpty then text else body.drop digits.length
    match unitFactor? rule.units behind with
    | some (factor, []) =>
      let value : Int := if negative then -Int.ofNat (magnitude * factor) else Int.ofNat (magnitude * factor)
      let (low, high) : Int × Int :=
        if rule.signed then (-largestInteger - 1, largestInteger) else (0, largestCount)
      let far : Int := 1073741823
      if value < low || high < value then .error .tooLarge
      else if value < rule.least || rule.most < value then
        .error (if far < value || value < -far - 1 then .tooLarge else .outOfRange)
      else .ok value
    | _ => .error .malformed

def QuantityRule.refusal? (rule : QuantityRule) (word : String) : Option Refusal :=
  match rule.read word with
  | .ok _ => none
  | .error fault =>
    some { message := rule.complaint ++ ": " ++ shown word ++ fault.reason, hinted := false }

def QuantityRule.value (rule : QuantityRule) (usual : Int) (word : Option String) : Int :=
  ((word.bind fun word => (rule.read word).toOption)).getD usual

end PipeShell.Utility
