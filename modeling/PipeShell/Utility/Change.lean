import PipeShell.System.Names
import PipeShell.Utility.Basic

/-! # Work on files

What is done for one operand after the other: files are looked at and changed,
things are said, and questions are asked. A complaint does not end the work, but
it is remembered until the end. -/

set_option autoImplicit false

namespace PipeShell.Utility

open PipeShell.System

structure Progress where
  failed : Bool := false
  /-- What was read of the input for answers and not used yet. -/
  unread : Bytes := []
  deriving DecidableEq, Repr

def Task (α : Type) : Type := Progress → (α → Progress → Program) → Program

instance : Monad Task where
  pure value := fun progress next => next value progress
  bind task continuation := fun progress next =>
    task progress fun value progress => continuation value progress next

namespace Task

def say (invocation : Invocation) (text : String) : Task Unit := fun progress next =>
  emit invocation (rawBytes (text ++ "\n")) fun _ => next () progress

def sayIf (isWanted : Bool) (invocation : Invocation) (text : String) : Task Unit :=
  if isWanted then say invocation text else pure ()

def mention (invocation : Invocation) (text : String) : Task Unit := fun progress next =>
  warn invocation text fun _ => next () progress

def blame : Task Unit := fun progress next => next () { progress with failed := true }

def complain (invocation : Invocation) (text : String) : Task Unit := do
  mention invocation text
  blame

def stop (program : Program) : Task Unit := fun _ _ => program

def look : Task FileSystem := fun progress next => .look fun files => next files progress

def change (attempt : FileSystem → Except Failure FileSystem) : Task (Except Failure Unit) := fun progress next =>
  .files (fun files => (attempt files).toOption.getD files) fun files =>
    next ((attempt files).map fun _ => ()) progress

def readAll (descriptor : Nat) : Task Bytes := fun progress next =>
  Program.readAll descriptor fun data _ => next data progress

def write (outlet : Outlet) (data : Bytes) : Task (Option Errno) := fun progress next =>
  outlet.write data fun _ answer => next answer progress

def readAnswer : Nat → Bytes → (Bytes → Bytes → Program) → Program
  | 0, unread, next => next unread []
  | bound + 1, unread, next =>
    let line := unread.takeWhile (· != 10)
    if line.length < unread.length then next line (unread.drop (line.length + 1))
    else
      .read Program.inputDescriptor Program.blockSize fun answer =>
        match answer with
        | .ok (b :: data) => readAnswer bound (unread ++ b :: data) next
        | _ => next unread []

def ask (invocation : Invocation) (question : String) : Task Bool := fun progress next =>
  Program.complain (invocation.name ++ ": " ++ question ++ "? ") fun _ =>
    readAnswer Program.lifetime progress.unread fun line unread =>
      next (line.head?.any fun b => b = 121 || b = 89) { progress with unread }

def run (task : Task Unit) : Program :=
  task {} fun _ progress =>
    (Source.descriptor Program.inputDescriptor).giveBack progress.unread.length fun _ =>
      .exitWith (if progress.failed then 1 else 0)

end Task

def isMissing (failure : Failure) : Bool :=
  failure = .os .noEntry || failure = .os .notDirectory || failure = .os .invalid || failure = .os .invalidText

def namesIn (files : FileSystem) (location : Location) : List (String × Node) :=
  (files.children location).mergeSort fun a b => !bytesBefore (rawBytes b.1) (rawBytes a.1)

def kindName (files : FileSystem) (node : Node) : String :=
  match node with
  | .directory _ => "directory"
  | .link _ => "symbolic link"
  | .device _ => "character special file"
  | .pipe _ => "fifo"
  | .program _ => "regular file"
  | node => if (files.fileOf? node).all fun file => file.content.isEmpty then "regular empty file" else "regular file"

def lastComponent (path : String) : String :=
  let letters := path.toList.reverse
  let slashes := letters.takeWhile (· == '/')
  let name := (letters.drop slashes.length).takeWhile (· != '/')
  if name.isEmpty then "" else String.ofList (slashes ++ name).reverse

def withoutSlashes (path : String) : String :=
  let trimmed := (path.toList.reverse.dropWhile (· == '/')).reverse
  if trimmed.isEmpty then (if path.isEmpty then "" else "/") else String.ofList trimmed

/-- A name in a directory that is being walked through; one slash behind the path of the
directory stays as it is. -/
def pathBelow (directory name : String) : String :=
  if Path.endsWithSlash directory then directory ++ name else directory ++ "/" ++ name

/-- A path behind a directory; slashes behind the directory count for one, and those
in front of the path separate it. -/
def pathInside (directory path : String) : String :=
  let front := if lastComponent directory = "" then directory else withoutSlashes directory
  if front.isEmpty then (if Path.isAbsolute path then "." ++ path else path)
  else if lastComponent front = "" then (if Path.isAbsolute path then front ++ "." ++ path else front ++ path)
  else if Path.isAbsolute path then front ++ path
  else front ++ "/" ++ path

/-- The beginnings of a path that name the directories above it, the longest last. The
slashes behind them are left out. -/
def pathsAbove : Nat → String → List String
  | 0, _ => []
  | bound + 1, path =>
    let front := (path.toList.reverse.dropWhile (· == '/')).dropWhile (· != '/')
    let above := String.ofList (front.dropWhile (· == '/')).reverse
    if above.isEmpty then [] else pathsAbove bound above ++ [above]

def withOneSlash (path : String) : String :=
  if path.length ≤ 2 || !Path.endsWithSlash path then path
  else
    let front := withoutSlashes path
    if front = "/" then "/" else front ++ "/"

end PipeShell.Utility
