import PipeShell.System.OpenFile
import PipeShell.System.Status

/-! # What a process holds

A process has descriptors, each of which leads somewhere, and plans for the
signals that may reach it. A copy of the process starts with the same ones. When
the process becomes a program, its private descriptors go away, and only those
plans are left that a program can be handed. -/

set_option autoImplicit false

namespace PipeShell

open PipeShell.System

inductive Port where
  /-- To an entry of the table of open files. -/
  | file (slot : Nat)
  /-- To the end of a pipe that is read. -/
  | reader (pipe : Nat)
  /-- To the end of a pipe that is written. -/
  | writer (pipe : Nat)
  /-- To nothing. -/
  | null
  deriving DecidableEq, Repr

/-- What a process does about a signal. -/
inductive Plan where
  /-- What the signal usually does. -/
  | usual
  | ignored
  /-- The process goes on and looks at the signal later. -/
  | noted
  deriving DecidableEq, Repr

structure Holdings where
  /-- The descriptors that are open, with where they lead. -/
  ports : List (Nat × Port) := []
  /-- The signals that do not do what they usually do. -/
  plans : List (Nat × Plan) := []
  /-- The signals that do not get through. -/
  blocked : List Nat := []
  deriving DecidableEq, Repr

namespace Holdings

/-- Where a descriptor leads; nothing if it is closed. -/
def port? (holdings : Holdings) (descriptor : Nat) : Option Port := holdings.ports.lookup descriptor

/-- The holdings with a descriptor leading elsewhere, or closed. -/
def connect (holdings : Holdings) (descriptor : Nat) (port : Option Port) : Holdings :=
  let others := holdings.ports.filter (·.1 != descriptor)
  { holdings with ports := (port.toList.map fun port => (descriptor, port)) ++ others }

def close (holdings : Holdings) (descriptors : List Nat) : Holdings :=
  { holdings with ports := holdings.ports.filter fun (descriptor, _) => !descriptors.contains descriptor }

/-- The holdings with a descriptor leading where another one leads, which is
closed. -/
def move (holdings : Holdings) (source target : Nat) : Holdings :=
  if source = target then holdings else (holdings.connect target (holdings.port? source)).close [source]

/-- The first descriptor that programs do not get to see. -/
def firstPrivate : Nat := 10

def fresh (holdings : Holdings) : Nat :=
  holdings.ports.foldl (fun number (descriptor, _) => max number (descriptor + 1)) firstPrivate

def plan (holdings : Holdings) (signal : Nat) : Plan := (holdings.plans.lookup signal).getD .usual

def setPlan (holdings : Holdings) (signal : Nat) (plan : Plan) : Holdings :=
  let others := holdings.plans.filter (·.1 != signal)
  { holdings with plans := if plan = .usual then others else (signal, plan) :: others }

def inherited (holdings : Holdings) : Holdings where
  ports := holdings.ports.filter (·.1 < firstPrivate)
  plans := holdings.plans.filter (·.2 == .ignored)
  blocked := holdings.blocked

/-- Whether a descriptor leads to the end of a pipe that is read. -/
def reads (holdings : Holdings) (pipe : Nat) : Bool := holdings.ports.any (·.2 == .reader pipe)

/-- Whether a descriptor leads to the end of a pipe that is written. -/
def writes (holdings : Holdings) (pipe : Nat) : Bool := holdings.ports.any (·.2 == .writer pipe)

end Holdings

end PipeShell
