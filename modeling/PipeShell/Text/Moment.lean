/-! # Points in time in words

Which texts name a point in time. Such a text is a row of items: dates, times of the
day, days of the week, zones, and distances from now, in any order and each of them at
most once, distances aside. A plain number is a year, a date or a time, as its digits
and the items in front of it suggest. -/

set_option autoImplicit false

namespace PipeShell.Text

/-- The pieces of which items are made. -/
inductive MomentToken where
  /-- A number with the count of its digits. -/
  | number (digits value : Nat)
  | decimal
  | signed (digits value : Nat)
  | signedDecimal
  | half
  | month (number : Nat)
  | weekday
  /-- A word such as `next` or `third`. -/
  | ordinal
  | unit (isSecond : Bool)
  | shift
  | ago
  | zone
  | summerZone
  | summer
  | tee
  | mark (c : Char)
  | unknown
  deriving DecidableEq, Repr

namespace MomentToken

/-- The months; each may be shortened to three letters. -/
def months : List String :=
  ["JANUARY", "FEBRUARY", "MARCH", "APRIL", "MAY", "JUNE", "JULY", "AUGUST", "SEPTEMBER", "OCTOBER", "NOVEMBER", "DECEMBER"]

/-- The days of the week; each may be shortened to three letters. -/
def weekdays : List String :=
  ["SUNDAY", "MONDAY", "TUESDAY", "WEDNESDAY", "THURSDAY", "FRIDAY", "SATURDAY", "TUES", "WEDNES", "THUR", "THURS"]

def zones : List String :=
  ["GMT", "UT", "UTC", "WET", "ART", "BRT", "NST", "AST", "CLT", "EST", "CST", "MST", "PST", "AKST", "HST", "HAST", "SST",
    "WAT", "CET", "MET", "MEZ", "EET", "CAT", "SAST", "EAT", "MSK", "IST", "SGT", "KST", "JST", "GST", "NZST"]

def summerZones : List String :=
  ["WEST", "BST", "BRST", "NDT", "ADT", "CLST", "EDT", "CDT", "MDT", "PDT", "AKDT", "HADT", "CEST", "MEST", "MESZ", "EEST",
    "MSD", "NZDT"]

def units : List String := ["YEAR", "MONTH", "FORTNIGHT", "WEEK", "DAY", "HOUR", "MINUTE", "MIN"]

def ordinals : List String :=
  ["LAST", "THIS", "NEXT", "FIRST", "THIRD", "FOURTH", "FIFTH", "SIXTH", "SEVENTH", "EIGHTH", "NINTH", "TENTH", "ELEVENTH",
    "TWELFTH"]

def unit? (word : String) : Option MomentToken :=
  if units.contains word then some (.unit false)
  else if word == "SECOND" || word == "SEC" then some (.unit true)
  else none

def ofWord (word : String) : MomentToken :=
  let letters := word.toList
  let isShort := letters.length = 3 || (letters.length = 4 && letters.getLast? == some '.')
  let names (name : String) : Bool := if isShort then name.toList.take 3 == letters.take 3 else name == word
  let singular := if letters.getLast? == some 'S' then String.ofList letters.dropLast else word
  let bare := String.ofList (letters.filter (· != '.'))
  if ["AM", "A.M.", "PM", "P.M."].contains word then .half
  else
    match months.findIdx? names, weekdays.any names with
    | some index, _ => .month (index + 1)
    | none, true => .weekday
    | none, false =>
      if word == "SEPT" then .month 9
      else if zones.contains word then .zone
      else if summerZones.contains word then .summerZone
      else if word == "DST" then .summer
      else
        match unit? word, unit? singular with
        | some token, _ => token
        | none, some token => token
        | none, none =>
          if ["TOMORROW", "YESTERDAY", "TODAY", "NOW"].contains word then .shift
          else if ordinals.contains word then .ordinal
          else if word == "AGO" || word == "HENCE" then .ago
          else if letters.length = 1 then (if word == "T" then .tee else .zone)
          else if zones.contains bare then .zone
          else if summerZones.contains bare then .summerZone
          else .unknown

def valueOf (digits : List Char) : Nat := digits.foldl (fun value c => value * 10 + (c.toNat - '0'.toNat)) 0

/-- The characters behind a comment that has been entered `depth` times. -/
def skipComment (depth : Nat) : List Char → List Char
  | [] => []
  | '(' :: rest => skipComment (depth + 1) rest
  | ')' :: rest => if depth ≤ 1 then rest else skipComment (depth - 1) rest
  | _ :: rest => skipComment depth rest

def isBlank (c : Char) : Bool := c = ' ' || ('\t' ≤ c && c ≤ '\r')

/-- The tokens of a text of at most `bound` characters. A sign with no number behind it
counts for nothing. -/
def tokens : Nat → List Char → List MomentToken
  | 0, _ => []
  | _ + 1, [] => []
  | bound + 1, c :: rest =>
    let number (hasSign : Bool) (text : List Char) : List MomentToken :=
      let digits := text.takeWhile Char.isDigit
      let behind := text.drop digits.length
      match behind with
      | '.' :: d :: _ | ',' :: d :: _ =>
        if d.isDigit then
          (if hasSign then .signedDecimal else .decimal) :: tokens bound ((behind.drop 1).dropWhile Char.isDigit)
        else
          (if hasSign then .signed digits.length (valueOf digits) else .number digits.length (valueOf digits)) ::
            tokens bound behind
      | _ =>
        (if hasSign then .signed digits.length (valueOf digits) else .number digits.length (valueOf digits)) ::
          tokens bound behind
    if isBlank c then tokens bound rest
    else if c.isDigit then number false (c :: rest)
    else if c = '-' || c = '+' then
      let behind := rest.dropWhile isBlank
      if behind.head?.any Char.isDigit then number true behind else tokens bound behind
    else if c.isAlpha then
      let word := c :: rest.takeWhile fun c => c.isAlpha || c = '.'
      ofWord (String.ofList (word.map Char.toUpper)) :: tokens bound (rest.drop (word.length - 1))
    else if c = '(' then tokens bound (skipComment 1 rest)
    else .mark c :: tokens bound rest

end MomentToken

/-- What has been found in a text so far. -/
structure MomentTally where
  dates : Nat := 0
  times : Nat := 0
  weekdays : Nat := 0
  zones : Nat := 0
  summers : Nat := 0
  hasDistance : Bool := false
  hasYear : Bool := false
  /-- Every date and time so far is one that exists. -/
  isReal : Bool := true
  deriving DecidableEq, Repr

namespace MomentTally

/-- The number of days in a month; a year that is not known has a leap day. -/
def daysIn (year : Option Nat) (month : Nat) : Nat :=
  let isLeap := year.all fun year => year % 4 = 0 && (year % 100 != 0 || year % 400 = 0)
  if month = 2 then (if isLeap then 29 else 28) else if [4, 6, 9, 11].contains month then 30 else 31

def yearOf (digits value : Nat) : Nat := if digits = 2 then (if value < 69 then value + 2000 else value + 1900) else value

def addDate (tally : MomentTally) (year : Option Nat) (month day : Nat) : MomentTally :=
  let isDate := 1 ≤ month && month ≤ 12 && 1 ≤ day && day ≤ daysIn year month
  { tally with dates := tally.dates + 1, hasYear := year.isSome, isReal := tally.isReal && isDate }

/-- The tally with a time, in half a day or in a whole one. -/
def addTime (tally : MomentTally) (hour minute second : Nat) (isHalf : Bool := false) : MomentTally :=
  let isTime := (if isHalf then 1 ≤ hour && hour ≤ 12 else hour ≤ 23) && minute ≤ 59 && second ≤ 59
  { tally with times := tally.times + 1, isReal := tally.isReal && isTime }

def addZone (tally : MomentTally) : MomentTally := { tally with zones := tally.zones + 1 }

def addDistance (tally : MomentTally) : MomentTally := { tally with hasDistance := true }

def addNumber (tally : MomentTally) (digits value : Nat) : MomentTally :=
  if tally.dates > 0 && !tally.hasYear && !tally.hasDistance && (tally.times > 0 || digits > 2) then
    { tally with hasYear := true }
  else if digits > 4 then tally.addDate (some (yearOf (digits - 4) (value / 10000))) (value / 100 % 100) (value % 100)
  else if digits ≤ 2 then tally.addTime value 0 0
  else tally.addTime (value / 100) (value % 100) 0

def isMoment (tally : MomentTally) : Bool :=
  tally.isReal && tally.dates ≤ 1 && tally.times ≤ 1 && tally.weekdays ≤ 1 && tally.zones ≤ 1 && tally.summers ≤ 1

def addOffset (tally : MomentTally) : List MomentToken → MomentTally × List MomentToken
  | .signed _ _ :: .mark ':' :: .number _ _ :: rest => (tally.addZone, rest)
  | .signed _ _ :: rest => (tally.addZone, rest)
  | rest => (tally, rest)

/-- Adds a time that begins with an hour, if there is one. -/
def addClock (tally : MomentTally) : List MomentToken → Option (MomentTally × List MomentToken)
  | .number _ hour :: .half :: rest => some (tally.addTime hour 0 0 true, rest)
  | .number _ hour :: .mark ':' :: .number _ minute :: .half :: rest => some (tally.addTime hour minute 0 true, rest)
  | .number _ hour :: .mark ':' :: .number _ minute :: .mark ':' :: .number _ second :: .half :: rest =>
    some (tally.addTime hour minute second true, rest)
  | .number _ hour :: .mark ':' :: .number _ minute :: .mark ':' :: .number _ second :: rest =>
    some ((tally.addTime hour minute second).addOffset rest)
  | .number _ hour :: .mark ':' :: .number _ minute :: .mark ':' :: .decimal :: rest =>
    some ((tally.addTime hour minute 0).addOffset rest)
  | .number _ hour :: .mark ':' :: .number _ minute :: rest => some ((tally.addTime hour minute 0).addOffset rest)
  | .number _ hour :: .signed digits value :: rest =>
    some ((tally.addTime hour 0 0).addOffset (.signed digits value :: rest))
  | _ => none

def addItem (tally : MomentTally) : List MomentToken → Option (MomentTally × List MomentToken)
  | .number digits year :: .signed _ month :: .signed _ day :: .tee :: rest =>
    let tally := tally.addDate (some (yearOf digits year)) month day
    match tally.addClock rest with
    | some found => some found
    | none => some (tally.addZone, rest)
  | .number digits year :: .signed _ month :: .signed _ day :: rest =>
    some (tally.addDate (some (yearOf digits year)) month day, rest)
  | .number digits a :: .mark '/' :: .number _ b :: .mark '/' :: .number digits' c :: rest =>
    if digits ≥ 4 then some (tally.addDate (some a) b c, rest) else some (tally.addDate (some (yearOf digits' c)) a b, rest)
  | .number _ month :: .mark '/' :: .number _ day :: rest => some (tally.addDate none month day, rest)
  | .number _ day :: .month month :: .signed digits year :: rest =>
    some (tally.addDate (some (yearOf digits year)) month day, rest)
  | .number _ day :: .month month :: .number digits year :: .mark ':' :: rest =>
    some (tally.addDate none month day, .number digits year :: .mark ':' :: rest)
  | .number _ day :: .month month :: .number digits year :: rest =>
    some (tally.addDate (some (yearOf digits year)) month day, rest)
  | .number _ day :: .month month :: rest => some (tally.addDate none month day, rest)
  | .month month :: .signed _ day :: .signed digits year :: rest =>
    some (tally.addDate (some (yearOf digits year)) month day, rest)
  | .month month :: .number _ day :: .mark ',' :: .number digits year :: rest =>
    some (tally.addDate (some (yearOf digits year)) month day, rest)
  | .month month :: .number _ day :: rest => some (tally.addDate none month day, rest)
  | .weekday :: .mark ',' :: rest | .ordinal :: .weekday :: rest | .number _ _ :: .weekday :: rest | .weekday :: rest =>
    some ({ tally with weekdays := tally.weekdays + 1 }, rest)
  | .number digits value :: .signed _ _ :: .unit _ :: rest => some ((tally.addNumber digits value).addDistance, rest)
  | .ordinal :: .unit _ :: rest | .number _ _ :: .unit _ :: rest | .signed _ _ :: .unit _ :: rest
  | .decimal :: .unit true :: rest | .signedDecimal :: .unit true :: rest | .unit _ :: rest =>
    some (tally.addDistance, if rest.head? == some .ago then rest.tail else rest)
  | .shift :: rest => some (tally.addDistance, rest)
  | .zone :: .signed _ _ :: .unit _ :: rest | .tee :: .signed _ _ :: .unit _ :: rest =>
    some (tally.addZone.addDistance, rest)
  | .zone :: .signed digits value :: rest =>
    let (_, rest) := tally.addOffset (.signed digits value :: rest)
    some (tally.addZone, rest)
  | .zone :: .summer :: rest | .zone :: rest | .tee :: rest | .summerZone :: rest => some (tally.addZone, rest)
  | .summer :: rest => some ({ tally with summers := tally.summers + 1 }, rest)
  | tokens =>
    match tally.addClock tokens, tokens with
    | some found, _ => some found
    | none, .number digits value :: rest => some (tally.addNumber digits value, rest)
    | none, _ => none

/-- Adds all items, at most `bound` of them. -/
def addItems : Nat → MomentTally → List MomentToken → Option MomentTally
  | _, tally, [] => some tally
  | 0, _, _ => none
  | bound + 1, tally, tokens => (tally.addItem tokens).bind fun (tally, rest) => addItems bound tally rest

end MomentTally

/-- The text behind the zone that it begins with, if it begins with one. -/
def behindZone (text : List Char) : List Char :=
  match text.dropWhile MomentToken.isBlank with
  | 'T' :: 'Z' :: '=' :: '"' :: rest => (rest.dropWhile (· != '"')).drop 1
  | text => text

def isMoment (text : String) : Bool :=
  let letters := behindZone text.toList
  let tokens := MomentToken.tokens (letters.length + 1) letters
  match tokens with
  | [.mark '@', .number _ _] | [.mark '@', .signed _ _] | [.mark '@', .decimal] | [.mark '@', .signedDecimal] => true
  | tokens => ((MomentTally.addItems tokens.length {} tokens).map MomentTally.isMoment).getD false

/-- Whether a text gives a point in time by digits alone: the month, the day, the hour
and the minute, perhaps behind the year, and perhaps with the second behind a point. -/
def isStamp (text : String) : Bool :=
  let letters := text.toList
  let front := letters.takeWhile (· != '.')
  let behind := letters.drop front.length
  let pairs := (List.range (front.length / 2)).map fun index => MomentToken.valueOf ((front.drop (2 * index)).take 2)
  let second : Option Nat :=
    match behind with
    | [] => some 0
    | [_, a, b] => if a.isDigit && b.isDigit then some (MomentToken.valueOf [a, b]) else none
    | _ => none
  let isReal (year : Option Nat) (parts : List Nat) : Bool :=
    match parts, second with
    | [month, day, hour, minute], some second => (({} : MomentTally).addDate year month day).addTime hour minute second |>.isMoment
    | _, _ => false
  front.all Char.isDigit && front.length % 2 = 0 &&
    (match pairs with
      | [century, year, a, b, c, d] => isReal (some (century * 100 + year)) [a, b, c, d]
      | [year, a, b, c, d] => isReal (some (MomentTally.yearOf 2 year)) [a, b, c, d]
      | parts => isReal none parts)

end PipeShell.Text
