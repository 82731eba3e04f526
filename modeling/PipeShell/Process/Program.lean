import PipeShell.Process.Holdings
import PipeShell.Text.Raw

/-! # Programs

What a program does, seen from outside: it reads and writes through its
descriptors, works on files, makes copies of itself and waits for them, sends
signals and looks at those that came, lets time pass, and in the end exits. A
program is the tree of everything it may do, branching at the answers it gets.
Every branch is finite, though there is no bound on their length. -/

set_option autoImplicit false

namespace PipeShell

open PipeShell.System

/-- How a process waits for one of its children. -/
inductive WaitMode where
  /-- Until one has ended. -/
  | patient
  /-- Until one has ended or a signal was noted. -/
  | alert
  /-- Not at all. -/
  | passing
  deriving DecidableEq, Repr

/-- What waiting for children comes to. -/
inductive WaitAnswer where
  /-- The child with a number has ended. -/
  | ended (pid : Nat) (status : ExitStatus)
  /-- There is no child to wait for, or none has ended. -/
  | nobody
  /-- A signal was noted. -/
  | interrupted
  deriving DecidableEq, Repr

/-- The behaviour of a program. -/
inductive Program where
  /-- Ends with a status. -/
  | exit (status : ExitStatus)
  /-- Reads at most `limit` bytes; no bytes mean the end. -/
  | read (descriptor limit : Nat) (next : Except Errno Bytes → Program)
  /-- Writes bytes; the answer tells why it failed, if it did. -/
  | write (descriptor : Nat) (data : Bytes) (next : Option Errno → Program)
  /-- Changes the file system; what comes next may depend on how it was
  before. -/
  | files (change : FileSystem → FileSystem) (next : FileSystem → Program)
  /-- Changes what the process holds; what comes next may depend on how it was
  before. -/
  | adjust (change : Holdings → Holdings) (next : Holdings → Program)
  /-- Makes a descriptor lead to a file that was opened. -/
  | attach (descriptor : Nat) (file : OpenFile) (next : Unit → Program)
  /-- Makes two descriptors the ends of a new pipe. -/
  | pipe (reader writer : Nat) (next : Unit → Program)
  /-- Looks where a descriptor leads, and at the open file if it leads to one. -/
  | inspect (descriptor : Nat) (next : Option (Port × Option OpenFile) → Program)
  /-- Moves the position of an open file; the answer tells whether it is one. -/
  | seek (descriptor position : Nat) (next : Bool → Program)
  /-- Starts a copy of the process, which may hold something else. The copy gets its
  own number, and the process the number of the copy. -/
  | fork (change : Holdings → Holdings) (child next : Nat → Program)
  /-- Waits for a child, which is gone then. -/
  | wait (mode : WaitMode) (next : WaitAnswer → Program)
  /-- Sends a signal to a process; the answer tells whether there is one with
  that number. -/
  | signal (process number : Nat) (next : Bool → Program)
  /-- Takes the signals that were noted, in the order of their numbers. -/
  | noted (next : List Nat → Program)
  /-- Lets so many nanoseconds pass. -/
  | sleep (duration : Nat) (next : Unit → Program)

namespace Program

/-- Looks at the file system without changing it. -/
def look (next : FileSystem → Program) : Program := .files id next

/-- Takes a step that does nothing, so that others get their turns. -/
def pause (next : Unit → Program) : Program := .look fun _ => next ()

/-- Changes what the process holds, whatever that was. -/
def hold (change : Holdings → Holdings) (next : Unit → Program) : Program := .adjust change fun _ => next ()

def become (program : Program) : Program := hold Holdings.inherited fun _ => program

def withPipe (next : (reader writer : Nat) → Program) : Program :=
  .adjust id fun holdings =>
    let number := holdings.fresh
    .pipe number (number + 1) fun _ => next number (number + 1)

def inputDescriptor : Nat := 0

def outputDescriptor : Nat := 1

def errorDescriptor : Nat := 2

/-- Writes bytes to the output and goes on whatever the answer is. -/
def put (data : Bytes) (next : Unit → Program) : Program := .write outputDescriptor data fun _ => next ()

/-- The program without its output: writes there do not happen, as long as they are no more
than `room` bytes. Where they are more, or where the program ends, it goes on with `finish`,
which gets to know whether anything was written to the error stream meanwhile. -/
def withoutOutput (finish : Bool → Program) (told : Bool) (room : Nat) : Program → Program
  | .exit _ => finish told
  | .read descriptor limit next => .read descriptor limit fun answer => withoutOutput finish told room (next answer)
  | .write descriptor data next =>
    if descriptor = outputDescriptor then
      if room < data.length then finish told else withoutOutput finish told (room - data.length) (next none)
    else
      .write descriptor data fun answer =>
        withoutOutput finish (told || descriptor = errorDescriptor) room (next answer)
  | .files change next => .files change fun files => withoutOutput finish told room (next files)
  | .adjust change next => .adjust change fun holdings => withoutOutput finish told room (next holdings)
  | .attach descriptor file next => .attach descriptor file fun _ => withoutOutput finish told room (next ())
  | .pipe reader writer next => .pipe reader writer fun _ => withoutOutput finish told room (next ())
  | .inspect descriptor next => .inspect descriptor fun found => withoutOutput finish told room (next found)
  | .seek descriptor position next => .seek descriptor position fun done => withoutOutput finish told room (next done)
  | .fork change child next => .fork change child fun pid => withoutOutput finish told room (next pid)
  | .wait mode next => .wait mode fun answer => withoutOutput finish told room (next answer)
  | .signal process number next => .signal process number fun known => withoutOutput finish told room (next known)
  | .noted next => .noted fun signals => withoutOutput finish told room (next signals)
  | .sleep duration next => .sleep duration fun _ => withoutOutput finish told room (next ())

def complain (text : String) (next : Unit → Program) : Program :=
  .write errorDescriptor (rawBytes text) fun _ => next ()

def exitWith (code : UInt8) : Program := .exit (.code code)

/-- How many steps a program may take that would otherwise never end. -/
def lifetime : Nat := 4611686018427387904

def blockSize : Nat := 65536

/-- Feeds every block that can be read to `step` until there is no more or reading
fails. -/
def readBlocks {σ : Type} (descriptor : Nat) (state : σ) (step : σ → Bytes → (σ → Program) → Program)
    (finish : σ → Option Errno → Program) : Nat → Program
  | 0 => finish state none
  | bound + 1 =>
    .read descriptor blockSize fun answer =>
      match answer with
      | .error e => finish state (some e)
      | .ok data =>
        if data.isEmpty then finish state none
        else step state data fun state => readBlocks descriptor state step finish bound

def readAll (descriptor : Nat) (next : Bytes → Option Errno → Program) : Program :=
  readBlocks descriptor [] (fun pieces data resume => resume (data :: pieces))
    (fun pieces failure => next pieces.reverse.flatten failure) lifetime

/-- Waits for the child with a number, at most `bound` children long. -/
def awaitChild (pid : Nat) (next : ExitStatus → Program) : Nat → Program
  | 0 => next .success
  | bound + 1 =>
    .wait .patient fun answer =>
      match answer with
      | .ended other status => if other = pid then next status else awaitChild pid next bound
      | _ => next .success

end Program

end PipeShell
