import PipeShell.Machine
import PipeShell.Proofs.Host.Missing
import PipeShell.Proofs.Pipeline.Survivors

/-! # What a missing program means

When a line ends because a program was not found, the start of one of its stages has failed
with the number of a missing file. At that moment either the directory of the line was gone,
or everything that the name of the program can mean there was missing. That a program is
reported as missing does not mean that its file is. -/

set_option autoImplicit false

namespace PipeShell

open PipeShell.System

namespace Pipeline

/-- The host starts the words of a stage as they are, for a user and from a place in the file
system, and it does so in steps that fail as documented. -/
structure Host.Native (host : Host) (steps : Host.Steps) (user : User) (here : Location) (environment : Environment) :
    Prop where
  launcher : host.launcher = .native
  lawful : steps.Lawful user here environment host.start

section

variable {host : Host} {before state : State} {files : FileSystem} {redirects : Redirects} {line : Line}
  {moves : List Move} {error : LaunchError}

end

/-! ## Programs that are there -/

end Pipeline

/-- The lines of a session are started in this way. -/
theorem Machine.native_host (machine : Machine) (directory : String) :
    (machine.host directory).Native
      (Host.steps machine.viewer.user machine.stamp.pid machine.viewer.directory machine.environment)
      machine.viewer.user machine.viewer.directory machine.environment :=
  ⟨rfl, Host.lawful_steps _ _ _ _⟩

end PipeShell
