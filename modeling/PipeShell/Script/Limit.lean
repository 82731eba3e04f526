import PipeShell.System.Errno

/-! # Limits of a process

What a process may use of each resource: as much as its soft limit says, which it
may raise up to its hard limit. Nobody may raise a hard limit here. -/

set_option autoImplicit false

namespace PipeShell.Script

open PipeShell.System

/-- The limits on a resource, in its units. Without one there is no limit. -/
structure Limit where
  /-- The letter that stands for the resource. -/
  letter : Char
  /-- The name of the resource, with its unit. -/
  name : String
  soft : Option Nat := none
  hard : Option Nat := none
  deriving DecidableEq, Repr

namespace Limit

def standard : List Limit :=
  [{ letter := 't', name := "time(seconds)" }, { letter := 'f', name := "file(blocks)" },
    { letter := 'd', name := "data(kbytes)" }, { letter := 's', name := "stack(kbytes)", soft := some 8192 },
    { letter := 'c', name := "coredump(blocks)", soft := some 0 }, { letter := 'm', name := "memory(kbytes)" },
    { letter := 'l', name := "locked memory(kbytes)", soft := some 8192, hard := some 8192 },
    { letter := 'p', name := "process" },
    { letter := 'n', name := "nofiles", soft := some 1048576, hard := some 1048576 },
    { letter := 'v', name := "vmemory(kbytes)" }, { letter := 'w', name := "locks" },
    { letter := 'r', name := "rtprio", soft := some 0, hard := some 0 }]

def exceeds : Option Nat → Option Nat → Bool
  | _, none => false
  | none, some _ => true
  | some value, some other => other < value

def change (limit : Limit) (soft hard : Bool) (value : Option Nat) : Except Errno Limit :=
  let changed : Limit := {
    limit with
    soft := if soft then value else limit.soft
    hard := if hard then value else limit.hard }
  if exceeds changed.soft changed.hard then .error .invalid
  else if exceeds changed.hard limit.hard then .error .notPermitted
  else .ok changed

def shown (value : Option Nat) : String := (value.map toString).getD "unlimited"

def value? (text : String) : Option (Option Nat) :=
  if text == "unlimited" then some none
  else if text.toList.all Char.isDigit then some (some (text.toNat?.getD 0))
  else none

end Limit

end PipeShell.Script
