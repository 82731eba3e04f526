import PipeShell.System.Errno

/-! # Failed operations

A failed operation carries either the error number of a system call or a kind
with or without a text of its own. Each has one kind and one message. -/

set_option autoImplicit false

namespace PipeShell.System

/-- The kinds of failure that anything here tells apart. -/
inductive FailureKind where
  | notFound
  | permissionDenied
  | connectionRefused
  | brokenPipe
  | alreadyExists
  | wouldBlock
  | notADirectory
  | isADirectory
  | filesystemLoop
  | invalidFilename
  | invalidInput
  | invalidData
  | timedOut
  | writeZero
  | interrupted
  | unsupported
  | unexpectedEof
  | outOfMemory
  | other
  /-- A failure of no kind with a name. -/
  | uncategorized
  deriving DecidableEq, Repr

def FailureKind.name : FailureKind → String
  | .notFound => "NotFound"
  | .permissionDenied => "PermissionDenied"
  | .connectionRefused => "ConnectionRefused"
  | .brokenPipe => "BrokenPipe"
  | .alreadyExists => "AlreadyExists"
  | .wouldBlock => "WouldBlock"
  | .notADirectory => "NotADirectory"
  | .isADirectory => "IsADirectory"
  | .filesystemLoop => "FilesystemLoop"
  | .invalidFilename => "InvalidFilename"
  | .invalidInput => "InvalidInput"
  | .invalidData => "InvalidData"
  | .timedOut => "TimedOut"
  | .writeZero => "WriteZero"
  | .interrupted => "Interrupted"
  | .unsupported => "Unsupported"
  | .unexpectedEof => "UnexpectedEof"
  | .outOfMemory => "OutOfMemory"
  | .other => "Other"
  | .uncategorized => "Uncategorized"

/-- The text of a failure that has nothing but its kind. -/
def FailureKind.description : FailureKind → String
  | .notFound => "entity not found"
  | .permissionDenied => "permission denied"
  | .connectionRefused => "connection refused"
  | .brokenPipe => "broken pipe"
  | .alreadyExists => "entity already exists"
  | .wouldBlock => "operation would block"
  | .notADirectory => "not a directory"
  | .isADirectory => "is a directory"
  | .filesystemLoop => "filesystem loop or indirection limit (e.g. symlink loop)"
  | .invalidFilename => "invalid filename"
  | .invalidInput => "invalid input parameter"
  | .invalidData => "invalid data"
  | .timedOut => "timed out"
  | .writeZero => "write zero"
  | .interrupted => "operation interrupted"
  | .unsupported => "unsupported"
  | .unexpectedEof => "unexpected end of file"
  | .outOfMemory => "out of memory"
  | .other => "other error"
  | .uncategorized => "uncategorized error"

def Errno.kind (errno : Errno) : FailureKind :=
  if errno = .noEntry then .notFound
  else if errno = .notPermitted ∨ errno = .accessDenied then .permissionDenied
  else if errno = .interrupted then .interrupted
  else if errno = .notDirectory then .notADirectory
  else if errno = .isDirectory then .isADirectory
  else if errno = .tooManyLinks then .filesystemLoop
  else if errno = .nameTooLong then .invalidFilename
  else if errno = .alreadyExists then .alreadyExists
  else if errno = .invalid then .invalidInput
  else if errno = .brokenPipe then .brokenPipe
  else .uncategorized

inductive Failure where
  /-- A system call failed. -/
  | os (errno : Errno)
  /-- A failure known by its kind alone. -/
  | bare (kind : FailureKind)
  /-- A failure with a kind and a text. -/
  | described (kind : FailureKind) (text : String)
  deriving DecidableEq, Repr

namespace Failure

def kindOf : Failure → FailureKind
  | .os errno => errno.kind
  | .bare kind => kind
  | .described kind _ => kind

/-- The error number, when a system call failed. -/
def errno? : Failure → Option Errno
  | .os errno => some errno
  | .bare _ => none
  | .described _ _ => none

def message : Failure → String
  | .os errno => errno.message
  | .bare kind => kind.description
  | .described _ text => text

def nulInPath : Failure := .described .invalidInput "file name contained an unexpected NUL byte"

/-- A program name or an argument cannot contain NUL. -/
def nulInCommand : Failure := .described .invalidInput "nul byte found in provided data"

/-- Text was expected, but the bytes are not UTF-8. -/
def notUtf8 : Failure := .described .invalidData "stream did not contain valid UTF-8"

end Failure

end PipeShell.System
