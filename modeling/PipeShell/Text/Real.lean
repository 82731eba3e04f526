/-! # Real numbers as text

Numbers with a point or an exponent, read from text, rounded to a number of
binary digits, and written in the usual three forms. All arithmetic is exact;
wherever a digit is lost, the nearest neighbour is taken, and the even one of
two. -/

set_option autoImplicit false

namespace PipeShell.Text

/-- The nearest whole number to a quotient; of two, the even one. -/
def roundDiv (num den : Nat) : Nat :=
  let quotient := num / den
  let remainder := num % den
  if 2 * remainder < den then quotient
  else if den < 2 * remainder then quotient + 1
  else quotient + quotient % 2

/-- The size of a number. -/
inductive Magnitude where
  /-- A fraction; the second number is not zero. -/
  | finite (num den : Nat)
  | infinite
  | nan
  deriving DecidableEq, Repr

/-- A number with a sign, which zero has too. -/
structure Real where
  negative : Bool := false
  magnitude : Magnitude
  deriving DecidableEq, Repr

def digitCount (base value : Nat) : Nat := (Nat.toDigits base value).length

/-- The fraction with at most `bits` binary digits that is nearest to a
fraction. -/
def nearest (bits num den : Nat) : Nat × Nat :=
  if num = 0 then (0, 1)
  else
    let excess : Int := Int.ofNat (digitCount 2 num) - Int.ofNat (digitCount 2 den) - Int.ofNat bits
    let scaled (shift : Int) : Nat × Nat :=
      if shift < 0 then (num * Nat.pow 2 shift.natAbs, den) else (num, den * Nat.pow 2 shift.toNat)
    let fits (shift : Int) : Bool := (scaled shift).1 / (scaled shift).2 < Nat.pow 2 bits
    let shift := if fits excess then excess else excess + 1
    let rounded := roundDiv (scaled shift).1 (scaled shift).2
    if shift < 0 then (rounded, Nat.pow 2 shift.natAbs) else (rounded * Nat.pow 2 shift.toNat, 1)

namespace Real

/-- The number rounded to `bits` binary digits. A number with too large an exponent
is infinite. -/
def round (bits greatest : Nat) (real : Real) : Real :=
  match real.magnitude with
  | .finite num den =>
    let (num, den) := nearest bits num den
    if den * Nat.pow 2 greatest ≤ num then { real with magnitude := .infinite }
    else { real with magnitude := .finite num den }
  | _ => real

def zero : Real := { magnitude := .finite 0 1 }

def ofFraction (num : Int) (den : Nat) : Real := { negative := num < 0, magnitude := .finite num.natAbs den }

/-- The number as a fraction with a sign, if it is one. -/
def fraction? (real : Real) : Option (Int × Nat) :=
  match real.magnitude with
  | .finite num den => some (if real.negative then -Int.ofNat num else Int.ofNat num, den)
  | _ => none

def less (a b : Real) : Bool :=
  match a.magnitude, b.magnitude with
  | .nan, _ => false
  | _, .nan => false
  | .infinite, .infinite => a.negative && !b.negative
  | .infinite, _ => a.negative
  | _, .infinite => !b.negative
  | .finite num den, .finite num' den' =>
    let signed (negative : Bool) (value : Nat) : Int := if negative then -Int.ofNat value else Int.ofNat value
    signed a.negative (num * den') < signed b.negative (num' * den)

def add (a b : Real) : Real :=
  match a.fraction?, b.fraction? with
  | some (num, den), some (num', den') =>
    let sum := num * Int.ofNat den' + num' * Int.ofNat den
    { ofFraction sum (den * den') with negative := sum < 0 || (sum = 0 && a.negative && b.negative) }
  | none, some _ => a
  | some _, none => b
  | none, none => if a.negative == b.negative then a else { magnitude := .nan }

def scale (count : Nat) (real : Real) : Real :=
  match real.magnitude with
  | .finite num den => { real with magnitude := .finite (num * count) den }
  | _ => real

/-- The digits of a text in a base up to 16, and the text behind them. -/
def takeDigits (base : Nat) (text : List Char) : List Nat × List Char :=
  let value (c : Char) : Nat :=
    if c.isDigit then c.toNat - '0'.toNat
    else if 'a' ≤ c && c ≤ 'f' then c.toNat - 'a'.toNat + 10
    else if 'A' ≤ c && c ≤ 'F' then c.toNat - 'A'.toNat + 10
    else base
  let digits := text.takeWhile fun c => value c < base
  (digits.map value, text.drop digits.length)

/-- The exponent behind a letter, and the text behind it; zero if there is
none. -/
def takeExponent (letters : List Char) (text : List Char) : Int × List Char :=
  match text with
  | letter :: rest =>
    if !letters.contains letter then (0, text)
    else
      let (negative, digits) :=
        match rest with
        | '-' :: rest => (true, rest)
        | '+' :: rest => (false, rest)
        | rest => (false, rest)
      match takeDigits 10 digits with
      | ([], _) => (0, text)
      | (digits, rest) =>
        let value := min 20000 (digits.foldl (fun value digit => value * 10 + digit) 0)
        (if negative then -(Int.ofNat value) else Int.ofNat value, rest)
  | [] => (0, [])

/-- The number at the beginning of a text without a sign, and the text behind it;
nothing if there is none. -/
def takeUnsigned (text : List Char) : Option (Magnitude × List Char) :=
  let lower := text.map Char.toLower
  if "infinity".toList.isPrefixOf lower then some (.infinite, text.drop 8)
  else if "inf".toList.isPrefixOf lower then some (.infinite, text.drop 3)
  else if "nan".toList.isPrefixOf lower then some (.nan, text.drop 3)
  else
    let read (base : Nat) (text : List Char) (power : Nat) (letters : List Char) : Option (Magnitude × List Char) :=
      let (whole, rest) := takeDigits base text
      let (fraction, rest) :=
        match rest with
        | '.' :: more => takeDigits base more
        | rest => ([], rest)
      if whole.isEmpty && fraction.isEmpty then none
      else
        let (exponent, rest) := takeExponent letters rest
        let value := (whole ++ fraction).foldl (fun value digit => value * base + digit) 0
        let den := Nat.pow base fraction.length
        some (if exponent < 0 then .finite value (den * Nat.pow power exponent.natAbs)
          else .finite (value * Nat.pow power exponent.toNat) den, rest)
    match lower with
    | '0' :: 'x' :: _ =>
      match read 16 (text.drop 2) 2 ['p', 'P'] with
      | some found => some found
      | none => some (.finite 0 1, text.drop 1)
    | _ => read 10 text 10 ['e', 'E']

/-- The number at the beginning of a text, behind blanks, and the text behind it;
nothing if there is none. -/
def take (text : List Char) : Option (Real × List Char) :=
  let text := text.dropWhile fun c => c = ' ' || ('\t' ≤ c && c ≤ '\r')
  match text with
  | '-' :: rest => (takeUnsigned rest).map fun (magnitude, rest) => ({ negative := true, magnitude }, rest)
  | '+' :: rest => (takeUnsigned rest).map fun (magnitude, rest) => ({ magnitude }, rest)
  | rest => (takeUnsigned rest).map fun (magnitude, rest) => ({ magnitude }, rest)

/-- The digits of a number, zeros in front up to a count. -/
def padDigits (count value : Nat) : List Char :=
  let digits := Nat.toDigits 10 value
  List.replicate (count - digits.length) '0' ++ digits

/-- A fraction with so many digits behind the point. `pointed` keeps a point that
nothing follows. -/
def fixedText (pointed : Bool) (places num den : Nat) : List Char :=
  let digits := padDigits (places + 1) (roundDiv (num * Nat.pow 10 places) den)
  let cut := digits.length - places
  digits.take cut ++ (if places = 0 && !pointed then [] else ['.']) ++ digits.drop cut

/-- The digits of a fraction, so many behind the first one, and the exponent of
the first one. -/
def scientificDigits (places num den : Nat) : List Char × Int :=
  if num = 0 then (List.replicate (places + 1) '0', 0)
  else
    let guess : Int := Int.ofNat (digitCount 10 num) - Int.ofNat (digitCount 10 den)
    let atLeast (exponent : Int) : Bool :=
      if exponent < 0 then den ≤ num * Nat.pow 10 exponent.natAbs else den * Nat.pow 10 exponent.toNat ≤ num
    let exponent := if atLeast guess then guess else guess - 1
    let shift := Int.ofNat places - exponent
    let rounded :=
      if shift < 0 then roundDiv num (den * Nat.pow 10 shift.natAbs) else roundDiv (num * Nat.pow 10 shift.toNat) den
    let digits := Nat.toDigits 10 rounded
    if places + 1 < digits.length then (digits.dropLast, exponent + 1) else (digits, exponent)

def exponentText (exponent : Int) : List Char :=
  (if exponent < 0 then '-' else '+') :: padDigits 2 exponent.natAbs

/-- A fraction with one digit in front of the point and so many behind it. -/
def scientificText (pointed : Bool) (places num den : Nat) : List Char :=
  let (digits, exponent) := scientificDigits places num den
  digits.take 1 ++ (if places = 0 && !pointed then [] else ['.']) ++ digits.drop 1 ++ 'e' :: exponentText exponent

/-- Digits without the zeros at their end, and without a point that nothing
follows. -/
def trimZeros (text : List Char) : List Char :=
  if text.contains '.' then
    let trimmed := (text.reverse.dropWhile (· = '0')).reverse
    if trimmed.getLast? == some '.' then trimmed.dropLast else trimmed
  else text

/-- A fraction with so many digits in all, in the shorter of the two forms. -/
def generalText (pointed : Bool) (digits num den : Nat) : List Char :=
  let digits := max digits 1
  let (_, exponent) := scientificDigits (digits - 1) num den
  let trim (text : List Char) : List Char := if pointed then text else trimZeros text
  if exponent < -4 || Int.ofNat digits ≤ exponent then
    let text := scientificText pointed (digits - 1) num den
    trim (text.takeWhile (· != 'e')) ++ text.dropWhile (· != 'e')
  else trim (fixedText pointed (Int.ofNat digits - 1 - exponent).toNat num den)

/-- A fraction in base 16 with a binary exponent. The first digit has the lowest
bits that `bits` leave over. -/
def binaryText (bits num den : Nat) : List Char :=
  if num = 0 then "0x0p+0".toList
  else
    let lead := if bits % 4 = 0 then 4 else bits % 4
    let width : Int := Int.ofNat (digitCount 2 num) - Int.ofNat (digitCount 2 den)
    let top := if 0 ≤ width then num / (den * Nat.pow 2 width.toNat) else num * Nat.pow 2 width.natAbs / den
    let exponent := if top = 0 then width - 1 else width
    let shift := Int.ofNat bits - 1 - exponent
    let mantissa := if shift < 0 then num / (den * Nat.pow 2 shift.natAbs) else num * Nat.pow 2 shift.toNat / den
    let digits := Nat.toDigits 16 mantissa
    let tail := ((digits.drop 1).reverse.dropWhile (· = '0')).reverse
    let shown := exponent - (Int.ofNat lead - 1)
    "0x".toList ++ digits.take 1 ++ (if tail.isEmpty then [] else '.' :: tail) ++
      'p' :: (if shown < 0 then '-' else '+') :: Nat.toDigits 10 shown.natAbs

end Real

end PipeShell.Text
