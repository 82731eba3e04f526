import PipeShell.Utility.Options
import PipeShell.Utility.Quantity

/-! # Scales of sizes

Numbers of bytes are told in units of one size, or in the largest unit that is not too
large. What is left over counts as a whole. -/

set_option autoImplicit false

namespace PipeShell.Utility

inductive SizeScale where
  /-- In units of some size, rounded up, with a text behind. -/
  | units (size : Nat) (ending : String)
  /-- In the largest unit that is a power of a base and not too large. -/
  | automatic (base : Nat)
  deriving DecidableEq, Repr

namespace SizeScale

def quotientUp (amount unit : Nat) : Nat := (amount + unit - 1) / unit

def powerLetter (base power : Nat) : String :=
  if power = 1 && base = 1000 then "k" else String.ofList ([' ', 'K', 'M', 'G', 'T', 'P', 'E', 'Z', 'Y'].drop power |>.take 1)

def powerOf (base amount : Nat) : Nat → Nat
  | 0 => 0
  | bound + 1 => if amount < base then 0 else powerOf base (amount / base) bound + 1

def text (scale : SizeScale) (amount : Nat) : String :=
  match scale with
  | .units size ending => toString (quotientUp amount size) ++ ending
  | .automatic base =>
    let power := powerOf base amount 8
    let unit := Nat.pow base power
    let tenths := quotientUp (10 * amount) unit
    if power = 0 then toString amount
    else if amount / unit < 10 && tenths < 100 then
      toString (tenths / 10) ++ "." ++ toString (tenths % 10) ++ powerLetter base power
    else
      let whole := quotientUp amount unit
      if whole = base then "1.0" ++ powerLetter base (power + 1) else toString whole ++ powerLetter base power

def endingOf (size : Nat) (bytes binary : Bool) : String :=
  let base := if binary then 1024 else 1000
  let power := powerOf base size 8
  let power := if Nat.pow base power < size then power + 1 else power
  (if power = 0 then "" else powerLetter base power ++ (if bytes && binary then "i" else "")) ++ if bytes then "B" else ""

/-- The scale that a word describes; what is wrong with it stands in front of the option
and behind the word. -/
def read (word : String) : Except (String × String) SizeScale :=
  let named : Choices SizeScale := [("human-readable", .automatic 1024), ("si", .automatic 1000)]
  let body := if word.toList.head? = some '\'' then word.toList.drop 1 else word.toList
  match named.choose (String.ofList body) with
  | .ok scale => .ok scale
  | .error _ =>
    let digits := body.takeWhile Char.isDigit
    let letters := body.drop digits.length
    let count := if digits.isEmpty then 1 else (number? (String.ofList digits)).getD 0
    match unitFactor? ['e', 'E', 'g', 'G', 'k', 'K', 'm', 'M', 'p', 'P', 't', 'T', 'y', 'Y', 'z', 'Z', '0'] letters with
    | some (factor, []) =>
      if body.isEmpty || count = 0 then .error ("invalid ", "")
      else if largestCount < count * factor then .error ("", " too large")
      else
        let bytes := letters.getLast? = some 'B'
        let binary := !bytes || letters.contains 'i'
        .ok (.units (count * factor) (if digits.isEmpty then endingOf factor bytes binary else ""))
    | _ => .error (if digits.isEmpty then "invalid " else "invalid suffix in ", "")

end SizeScale

end PipeShell.Utility
