import PipeShell.Utility.Basic

/-! # Words of the input

The input of a program that passes words on, cut into words: at blanks and line
ends, where quotes and backslashes keep together what belongs together, or at a
byte that separates. -/

set_option autoImplicit false

namespace PipeShell.Utility

open PipeShell.System

structure InputWord where
  bytes : Bytes
  endsLine : Bool
  deriving DecidableEq, Repr

def InputWord.visible (word : InputWord) : Bytes := word.bytes.takeWhile (· != 0)

structure WordRules where
  /-- Whether blanks separate words, and not only line ends. -/
  splits : Bool
  /-- The word behind which nothing is read. -/
  stop : Option Bytes

inductive WordPlace where
  | between
  | inside
  | quoted (mark : UInt8)
  | escaped
  deriving DecidableEq, Repr

inductive WordEnd where
  | stopped
  | openQuote (mark : UInt8)
  deriving DecidableEq, Repr

/-- The reader of words in the middle of the input. -/
structure WordReader where
  place : WordPlace := .between
  /-- The word so far, its last byte first. -/
  word : Bytes := []
  /-- Whether the word is the first one of its line. -/
  first : Bool := true
  /-- Whether the byte before was a blank. -/
  afterBlank : Bool := false
  /-- The words before, the last one first. -/
  done : List InputWord := []
  ended : Option WordEnd := none
  deriving DecidableEq, Repr

namespace WordReader

def isBlankByte (b : UInt8) : Bool := b = 32 || b = 9

def finishWord (rules : WordRules) (endsLine : Bool) (reader : WordReader) : WordReader :=
  let word : InputWord := { bytes := reader.word.reverse, endsLine }
  if rules.stop.any (· == word.visible) then { reader with ended := some .stopped }
  else { reader with place := .between, word := [], done := word :: reader.done }

/-- Reads a byte of a word. A line end behind a blank does not count as one. -/
def readInside (rules : WordRules) (reader : WordReader) (b : UInt8) : WordReader :=
  if b = 10 then { reader.finishWord rules (!reader.afterBlank) with first := true }
  else if rules.splits && isBlankByte b then { reader.finishWord rules false with first := false }
  else if b = 92 then { reader with place := .escaped }
  else if b = 34 || b = 39 then { reader with place := .quoted b }
  else { reader with place := .inside, word := b :: reader.word }

def read (rules : WordRules) (reader : WordReader) (b : UInt8) : WordReader :=
  if reader.ended.isSome then reader
  else
    let next : WordReader :=
      match reader.place with
      | .between => if isSpaceByte b then reader else readInside rules reader b
      | .inside => readInside rules reader b
      | .quoted mark =>
        if b = 10 then { reader with ended := some (.openQuote mark) }
        else if b = mark then { reader with place := .inside }
        else { reader with word := b :: reader.word }
      | .escaped => { reader with place := .inside, word := b :: reader.word }
    { next with afterBlank := isBlankByte b }

def openQuoteText (mark : UInt8) : String :=
  "unmatched " ++ (if mark = 34 then "double" else "single") ++
    " quote; by default quotes are special to xargs unless you use the -0 option"

/-- All words at the end of the input, and what is wrong with the rest, if something is. A
last word without any byte does not count. -/
def close (rules : WordRules) (reader : WordReader) : List InputWord × Option String :=
  match reader.ended, reader.place with
  | some .stopped, _ => (reader.done.reverse, none)
  | some (.openQuote mark), _ => (reader.done.reverse, some (openQuoteText mark))
  | none, place =>
    if reader.word.isEmpty then (reader.done.reverse, none)
    else
      match place with
      | .quoted mark => (reader.done.reverse, some (openQuoteText mark))
      | _ =>
        let word : InputWord := { bytes := reader.word.reverse, endsLine := true }
        if reader.first && rules.stop.any (· == word.visible) then (reader.done.reverse, none)
        else ((word :: reader.done).reverse, none)

end WordReader

def inputWords (rules : WordRules) (data : Bytes) : List InputWord × Option String :=
  (data.foldl (WordReader.read rules) {}).close rules

/-- The words between separators, each of which ends a line. Nothing between two of them is
a word too. -/
def separatedWords (separator : UInt8) (data : Bytes) : List InputWord :=
  let pieces := data.splitOn separator
  let last := pieces.getLastD []
  ((if last.isEmpty then pieces.dropLast else pieces).map fun bytes => { bytes, endsLine := true })

end PipeShell.Utility
