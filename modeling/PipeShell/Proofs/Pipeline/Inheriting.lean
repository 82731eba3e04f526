import PipeShell.Proofs.Pipeline.Remains
import PipeShell.Proofs.Pipeline.Starting

/-! # How pipes are passed on

A process can write a pipe if it was started with it, if whoever forked it could, or if it
made the pipe itself. So a pipe that nobody can write any more stays like that. -/

set_option autoImplicit false

namespace PipeShell

open PipeShell.System

/-- The change may close, move and copy descriptors, but it opens no pipe for writing that
could not be written before. -/
def Holdings.Narrows (change : Holdings → Holdings) : Prop :=
  ∀ holdings pipe, (change holdings).writes pipe = true → holdings.writes pipe = true

/-- A program that never writes a pipe but those that it was started with and those that it
makes. It may fork as it likes, and pass on or close what it holds. -/
inductive Program.Inherits : Program → Prop where
  | exit {status : ExitStatus} : Inherits (.exit status)
  | read {descriptor limit : Nat} {next : Except Errno Bytes → Program} :
      (∀ answer, Inherits (next answer)) → Inherits (.read descriptor limit next)
  | write {descriptor : Nat} {data : Bytes} {next : Option Errno → Program} :
      (∀ answer, Inherits (next answer)) → Inherits (.write descriptor data next)
  | files {change : FileSystem → FileSystem} {next : FileSystem → Program} :
      (∀ files, Inherits (next files)) → Inherits (.files change next)
  | adjust {change : Holdings → Holdings} {next : Holdings → Program} :
      Holdings.Narrows change → (∀ holdings, Inherits (next holdings)) → Inherits (.adjust change next)
  | attach {descriptor : Nat} {file : OpenFile} {next : Unit → Program} :
      (∀ answer, Inherits (next answer)) → Inherits (.attach descriptor file next)
  | pipe {reader writer : Nat} {next : Unit → Program} :
      (∀ answer, Inherits (next answer)) → Inherits (.pipe reader writer next)
  | inspect {descriptor : Nat} {next : Option (Port × Option OpenFile) → Program} :
      (∀ answer, Inherits (next answer)) → Inherits (.inspect descriptor next)
  | seek {descriptor position : Nat} {next : Bool → Program} :
      (∀ answer, Inherits (next answer)) → Inherits (.seek descriptor position next)
  | fork {change : Holdings → Holdings} {child next : Nat → Program} :
      Holdings.Narrows change → (∀ pid, Inherits (child pid)) → (∀ pid, Inherits (next pid)) →
      Inherits (.fork change child next)
  | wait {mode : WaitMode} {next : WaitAnswer → Program} :
      (∀ answer, Inherits (next answer)) → Inherits (.wait mode next)
  | signal {process number : Nat} {next : Bool → Program} :
      (∀ answer, Inherits (next answer)) → Inherits (.signal process number next)
  | noted {next : List Nat → Program} : (∀ signals, Inherits (next signals)) → Inherits (.noted next)
  | sleep {duration : Nat} {next : Unit → Program} :
      (∀ answer, Inherits (next answer)) → Inherits (.sleep duration next)

theorem Holdings.narrows_close (descriptors : List Nat) : Narrows (·.close descriptors) := by
  intro holdings pipe writes
  obtain ⟨entry, member, leads⟩ := List.any_eq_true.mp writes
  exact List.any_eq_true.mpr ⟨entry, (List.mem_filter.mp member).1, leads⟩

/-- The port is the end of a pipe that is written. -/
def Port.IsWriter (port : Port) : Prop := ∃ pipe, port = .writer pipe

private theorem Holdings.narrows_iff {change : Holdings → Holdings} :
    Narrows change ↔ Confines Port.IsWriter change := by
  constructor
  · rintro narrows holdings _ ⟨pipe, rfl⟩
    exact narrows holdings pipe
  · exact fun confines holdings pipe => confines holdings (.writer pipe) ⟨pipe, rfl⟩

/-- To inherit the ends of pipes that are written is to be confined to them. -/
theorem Program.inherits_iff {program : Program} : program.Inherits ↔ program.Confined Port.IsWriter := by
  constructor
  · intro inherits
    induction inherits with
    | exit => exact .exit
    | read _ ih => exact .read ih
    | write _ ih => exact .write ih
    | files _ ih => exact .files ih
    | adjust narrows _ ih => exact .adjust (Holdings.narrows_iff.mp narrows) ih
    | attach _ ih => exact .attach ih
    | pipe _ ih => exact .pipe ih
    | inspect _ ih => exact .inspect ih
    | seek _ ih => exact .seek ih
    | fork narrows _ _ children ih => exact .fork (Holdings.narrows_iff.mp narrows) children ih
    | wait _ ih => exact .wait ih
    | signal _ ih => exact .signal ih
    | noted _ ih => exact .noted ih
    | sleep _ ih => exact .sleep ih
  · intro confined
    induction confined with
    | exit => exact .exit
    | read _ ih => exact .read ih
    | write _ ih => exact .write ih
    | files _ ih => exact .files ih
    | adjust confines _ ih => exact .adjust (Holdings.narrows_iff.mpr confines) ih
    | attach _ ih => exact .attach ih
    | pipe _ ih => exact .pipe ih
    | inspect _ ih => exact .inspect ih
    | seek _ ih => exact .seek ih
    | fork confines _ _ children ih => exact .fork (Holdings.narrows_iff.mpr confines) children ih
    | wait _ ih => exact .wait ih
    | signal _ ih => exact .signal ih
    | noted _ ih => exact .noted ih
    | sleep _ ih => exact .sleep ih

namespace Pipeline

namespace State

/-- Every process comes from one that was there before. -/
structure Descends (before after : State) : Prop where
  pipes : before.pipes.length ≤ after.pipes.length
  process : ∀ later ∈ after.processes, ∃ earlier ∈ before.processes,
    earlier.Bequeaths before.pipes.length after.pipes.length later

/-- All processes get at pipes by inheritance, and no pipe is written that does not exist. -/
structure Inheriting (state : State) : Prop where
  programs : ∀ process ∈ state.processes, process.program.Inherits
  bounded : ∀ pipe, state.hasWriter pipe = true → pipe < state.pipes.length

namespace Descends

variable {host : Host} {before after state : State} {index : Nat} {process : Process}

/-- A pipe is written by those who could write it before, or it is new. -/
theorem hasWriter (descends : Descends before after) (inheriting : before.Inheriting) {pipe : Nat}
    (written : after.hasWriter pipe = true) :
    before.hasWriter pipe = true ∨ before.pipes.length ≤ pipe ∧ pipe < after.pipes.length := by
  obtain ⟨later, member, writes⟩ := List.any_eq_true.mp written
  obtain ⟨earlier, memberBefore, bequeaths⟩ := descends.process later member
  have confined := Program.inherits_iff.mp (inheriting.programs earlier memberBefore)
  rcases bequeaths.holds _ confined (.writer pipe) pipe ⟨pipe, rfl⟩ rfl writes with old | new
  · exact .inl (List.any_eq_true.mpr ⟨earlier, memberBefore, old⟩)
  · exact .inr new

theorem inheriting (descends : Descends before after) (inheriting : before.Inheriting) : after.Inheriting where
  programs := by
    intro later member
    obtain ⟨earlier, memberBefore, bequeaths⟩ := descends.process later member
    have confined := Program.inherits_iff.mp (inheriting.programs earlier memberBefore)
    exact Program.inherits_iff.mpr (bequeaths.confined _ confined)
  bounded := by
    intro pipe written
    rcases descends.hasWriter inheriting written with old | ⟨_, below⟩
    · exact Nat.lt_of_lt_of_le (inheriting.bounded pipe old) descends.pipes
    · exact below

/-! ## Moves -/

private theorem of_stirs (stirs : Stirs before after) : Descends before after :=
  ⟨stirs.pipes, fun _ => stirs.exists_earlier⟩

theorem of_aged (pipes : before.pipes.length ≤ after.pipes.length) (aged : Aged before.processes after.processes) :
    Descends before after where
  pipes := pipes
  process := by
    intro later member
    obtain ⟨number, found⟩ := List.mem_iff_getElem?.mp member
    obtain ⟨earlier, foundBefore, ages⟩ := aged.process number later found
    refine ⟨earlier, List.mem_of_getElem? foundBefore, fun _ confined => ages.program ▸ confined, ?_⟩
    intro _ _ port pipe _ _ holds
    obtain ⟨running, leads⟩ := Bool.and_eq_true_iff.mp holds
    exact .inl (Bool.and_eq_true_iff.mpr ⟨ages.running running, ages.holdings ▸ leads⟩)

theorem ofProcesses (pipes : before.pipes.length ≤ after.pipes.length) (same : after.processes = before.processes) :
    Descends before after :=
  of_aged pipes (same ▸ .refl _)

private theorem moveCopier {number : Nat} {copier : Copier} (found : state.copiers[number]? = some copier)
    (moved : state.moveCopier host number copier = some after) : Descends state after :=
  ofProcesses (Undisturbed.moveCopier found moved).pipes (copier_cases moved).1

private theorem passTime (passed : state.passTime = some after) : Descends state after := by
  obtain ⟨moment, _, rfl⟩ := Option.map_eq_some_iff.mp passed
  exact ofProcesses (Nat.le_refl _) rfl

theorem act {action : Action} (later : action.isStarting = false) (acted : state.act host action = some after) :
    Descends state after := by
  obtain ⟨processes, log, conductor, rfl, aged, _⟩ := act_eq later acted
  exact of_aged (Nat.le_refl _) aged

private theorem reap {number : Nat} (started : state.OthersStarted) (reaped : state.reap host number = some after) :
    Descends state after := by
  unfold State.reap at reaped
  split at reaped
  · cases reaped
  · next reaper found =>
      obtain ⟨between, conducted, rfl⟩ := Option.map_eq_some_iff.mp reaped
      obtain ⟨action, rest, planned, acted⟩ := act_of_conduct conducted
      have later := started reaper (List.mem_of_getElem? found) action (planned ▸ List.mem_cons_self)
      obtain ⟨processes, log, conductor, rfl, aged, _⟩ := act_eq later acted
      exact of_aged (Nat.le_refl _) aged

/-- Whoever moves, starting a stage aside, every process comes from one that was there
before. -/
theorem move {actor : Actor} (started : state.OthersStarted) (other : actor ≠ .conductor)
    (moved : state.move host actor = some after) : Descends state after := by
  unfold State.move at moved
  split at moved
  · cases moved
  · cases actor with
    | conductor => exact absurd rfl other
    | reaper number => exact reap started moved
    | process index =>
        simp only [State.turn] at moved
        split at moved
        · next process found =>
            split at moved
            · next active => exact of_stirs (.moveProcess found (Bool.and_eq_true_iff.mp active).1 moved)
            · cases moved
        · cases moved
    | copier number =>
        simp only [State.turn] at moved
        split at moved
        · next found => exact moveCopier found moved
        · cases moved
    | clock => exact passTime moved

end Descends

end State

end Pipeline

end PipeShell
