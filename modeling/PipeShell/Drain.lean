import PipeShell.System.Failure
import PipeShell.Text.Utf8

/-! # Draining a stream

A drain copies a stream line by line until the stream ends. Each line loses its
line terminators and gets one newline; bytes that are not UTF-8 are replaced. A
line that the stream leaves unfinished is delivered when the stream reports its
end. -/

set_option autoImplicit false

namespace PipeShell

open PipeShell.System

def newline : UInt8 := 10

def readLimit : Nat := 8192

namespace Drain

def consByte (b : UInt8) : List Bytes × Bytes → List Bytes × Bytes
  | (lines, tail) =>
    if b = newline then ([newline] :: lines, tail)
    else
      match lines with
      | [] => ([], b :: tail)
      | line :: lines => ((b :: line) :: lines, tail)

/-- The lines of the bytes, each with its newline, and the unfinished rest. -/
def splitLines (bytes : Bytes) : List Bytes × Bytes :=
  bytes.foldr consByte ([], [])

/-- A line terminator: line feed or carriage return. -/
def isTerminator (c : Char) : Bool := c = '\n' || c = '\r'

/-- The text without the line terminators at its end. -/
def trimTerminators (text : List Char) : List Char :=
  (text.reverse.dropWhile isTerminator).reverse

/-- What is delivered of a line, its newline aside. -/
def lineText (line : Bytes) : Bytes :=
  Text.encode (trimTerminators (Text.decodeLossy line))

end Drain

/-- A drain between two reads. -/
structure Drain where
  /-- The bytes of a line that is not yet complete. -/
  unfinished : Bytes := []
  deriving DecidableEq, Repr

namespace Drain

/-- What the drain does with the bytes of one read: the lines it delivers, and
how it goes on, if it does. No bytes mean the end of the stream; then an
unfinished line is delivered first and the stream is read once more. -/
def receive (drain : Drain) (data : Bytes) : List Bytes × Option Drain :=
  if data.isEmpty then
    if drain.unfinished.isEmpty then ([], none) else ([drain.unfinished], some {})
  else
    let (lines, tail) := splitLines (drain.unfinished ++ data)
    (lines, some ⟨tail⟩)

end Drain

/-- What one read of a stream gives. -/
inductive Reading where
  /-- Some bytes; no bytes mean the end of the stream. -/
  | data (bytes : Bytes)
  | failed (failure : Failure)
  deriving DecidableEq, Repr

/-- Something that takes bytes, perhaps only so many. -/
structure Sink where
  /-- The pieces that were taken, the newest first. -/
  pieces : List Bytes := []
  /-- The number of bytes that will still be taken; no limit if absent. -/
  room : Option Nat := none
  /-- How many times the sink was flushed. -/
  flushes : Nat := 0
  deriving DecidableEq, Repr

namespace Sink

def taken (sink : Sink) : Bytes := sink.pieces.reverse.flatten

/-- How a sink without room refuses a write. -/
def full : Failure := .described .brokenPipe "sink full"

/-- Writes the bytes: as many as there is room for, and a failure if that is not
all of them. -/
def write (sink : Sink) (bytes : Bytes) : Sink × Option Failure :=
  match sink.room with
  | none => ({ sink with pieces := bytes :: sink.pieces }, none)
  | some room =>
    if bytes.length ≤ room then
      ({ sink with pieces := bytes :: sink.pieces, room := some (room - bytes.length) }, none)
    else ({ sink with pieces := bytes.take room :: sink.pieces, room := some 0 }, some full)

def flush (sink : Sink) : Sink := { sink with flushes := sink.flushes + 1 }

/-- Delivers a line: its text, a newline, and a flush when both were taken. -/
def deliver (sink : Sink) (line : Bytes) : Sink × Option Failure :=
  match sink.write (Drain.lineText line) with
  | (sink, some failure) => (sink, some failure)
  | (sink, none) =>
    match sink.write [newline] with
    | (sink, some failure) => (sink, some failure)
    | (sink, none) => (sink.flush, none)

def deliverAll (sink : Sink) : List Bytes → Sink × Option Failure
  | [] => (sink, none)
  | line :: rest =>
    match sink.deliver line with
    | (sink, some failure) => (sink, some failure)
    | (sink, none) => sink.deliverAll rest

end Sink

namespace Drain

/-- Copies what the readings give into the sink. After the last reading the
stream is at its end. An interrupted read is repeated; any other failure of the
stream or of the sink ends the copying and is its result. -/
def copy (drain : Drain) (sink : Sink) : List Reading → Sink × Option Failure
  | [] => sink.deliverAll (drain.receive []).1
  | .failed failure :: rest =>
    if failure.kindOf = .interrupted then drain.copy sink rest else (sink, some failure)
  | .data bytes :: rest =>
    let (lines, after) := drain.receive bytes
    match sink.deliverAll lines with
    | (sink, some failure) => (sink, some failure)
    | (sink, none) =>
      match after with
      | none => (sink, none)
      | some drain => drain.copy sink rest

end Drain

/-- Bytes cut into pieces of at most `readLimit` bytes; no bytes are one empty
piece. -/
def readsOf (bytes : Bytes) : List Bytes :=
  if bytes.length ≤ readLimit then [bytes]
  else bytes.take readLimit :: readsOf (bytes.drop readLimit)
termination_by bytes.length
decreasing_by
  simp only [List.length_drop, readLimit] at *
  omega

/-- The readings of a stream that hands out the given items in turn. An item
with more bytes than a read asks for takes several reads. -/
def Reading.ofItems (items : List Reading) : List Reading :=
  items.flatMap fun item =>
    match item with
    | .data bytes => (readsOf bytes).map .data
    | .failed failure => [.failed failure]

def Drain.run (items : List Reading) (sink : Sink) : Sink × Option Failure :=
  Drain.copy {} sink (Reading.ofItems items)

end PipeShell
