import PipeShell.Drain
import PipeShell.System.OpenFile
import PipeShell.Text.Grapheme

/-! # Reading lines

Lines are read from a file in blocks; what a block holds beyond the line stays
for the next one. A backspace in a line takes back what a reader takes for the
character in front of it. -/

set_option autoImplicit false

namespace PipeShell

open PipeShell.System

/-- A file that is read line by line. -/
structure LineReader where
  file : OpenFile
  /-- Bytes that were read but belong to no line yet. -/
  pending : Bytes := []
  deriving DecidableEq, Repr

/-- What comes of waiting for a line. -/
inductive ReadOutcome where
  | line (text : String)
  /-- The line was given up. -/
  | interrupted
  /-- No more lines will come. -/
  | ended
  | failed (failure : Failure)
  deriving DecidableEq, Repr

namespace LineReader

/-- Reads blocks until a newline is among the pending bytes or the file ends, at
most `bound` blocks. -/
def fill (files : FileSystem) : Nat → LineReader → Except Errno LineReader
  | 0, reader => .ok reader
  | bound + 1, reader =>
    if reader.pending.contains newline then .ok reader
    else
      match files.read reader.file readLimit with
      | .error e => .error e
      | .ok (data, file) =>
        if data.isEmpty then .ok reader
        else fill files bound { file, pending := reader.pending ++ data }

/-- Takes the next line off the pending bytes, its newline included. -/
def takeLine (reader : LineReader) : Bytes × LineReader :=
  let line := reader.pending.takeWhile (· != newline)
  let rest := reader.pending.dropWhile (· != newline)
  (line ++ rest.take 1, { reader with pending := rest.drop 1 })

/-- The line without its line end, which is a line feed with or without a
carriage return in front. -/
def trimLineEnd (line : List Char) : List Char :=
  match line.reverse with
  | '\n' :: '\r' :: rest => rest.reverse
  | '\n' :: rest => rest.reverse
  | _ => line

/-- Takes off the end of a text, which stands backwards, until at least so many
bytes are gone. -/
def dropBytes : Nat → List Char → List Char
  | 0, text => text
  | _, [] => []
  | bytes + 1, c :: text => dropBytes (bytes + 1 - c.utf8Size) text

/-- A text while its backspaces are carried out. -/
structure Typed where
  /-- What stands in the line, backwards. -/
  text : List Char := []
  /-- How many bytes each backspace to come takes back, the next one first. -/
  sizes : List Nat := []
  deriving DecidableEq, Repr

/-- Writes a cluster of characters behind the text. How much a backspace takes
back for it is kept in one byte. -/
def Typed.put (typed : Typed) (cluster : List Char) : Typed :=
  { text := cluster.reverse ++ typed.text
    sizes := cluster.foldl (· + ·.utf8Size) 0 % 256 :: typed.sizes }

def Typed.takeBack (typed : Typed) : Typed :=
  match typed.sizes with
  | [] => typed
  | size :: sizes => { text := dropBytes size typed.text, sizes }

/-- The line with its backspaces carried out. Which characters belong together is
settled before the first of them is. -/
def applyBackspaces (line : List Char) : List Char :=
  let typed := (Text.clusters line).foldl
    (fun typed cluster => if cluster = ['\x08'] then typed.takeBack else typed.put cluster)
    ({} : Typed)
  typed.text.reverse

def next (reader : LineReader) (files : FileSystem) (bound : Nat) : ReadOutcome × LineReader :=
  match fill files bound reader with
  | .error e => (.failed (.os e), reader)
  | .ok reader =>
    let (line, reader) := reader.takeLine
    if line.isEmpty then (.ended, reader)
    else
      match Text.decode? line with
      | none => (.failed .notUtf8, reader)
      | some text => (.line (String.ofList (applyBackspaces (trimLineEnd text))), reader)

end LineReader

end PipeShell
