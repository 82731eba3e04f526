import PipeShell.Proofs.Pipeline.Execution
import PipeShell.Proofs.Pipeline.Filters

/-! # What the stages wait for

Stages are started from left to right, and every pipe leads from one of them to a later
one or to a drain. So whoever waits because a pipe is full waits for something further
right, whoever waits because a pipe is empty waits for something further left, and at
neither end of the row anybody waits for a stage. -/

set_option autoImplicit false

namespace PipeShell.Pipeline

open PipeShell.System

theorem Launch.mem_inlets {launch : Launch} {pipe : Nat} (reads : launch.process.holdings.reads pipe = true) :
    pipe ∈ launch.inlets := by
  obtain ⟨⟨descriptor, port⟩, member, leads⟩ := List.any_eq_true.mp reads
  obtain rfl : port = .reader pipe := eq_of_beq leads
  exact List.mem_filterMap.mpr ⟨(descriptor, .reader pipe), member, rfl⟩

theorem Launch.mem_outlets {launch : Launch} {pipe : Nat} (writes : launch.process.holdings.writes pipe = true) :
    pipe ∈ launch.outlets := by
  obtain ⟨⟨descriptor, port⟩, member, leads⟩ := List.any_eq_true.mp writes
  obtain rfl : port = .writer pipe := eq_of_beq leads
  exact List.mem_filterMap.mpr ⟨(descriptor, .writer pipe), member, rfl⟩

/-- A port that reads no pipe and writes none but those with numbers in a range. -/
structure WritesWithin (low high : Nat) (port : Port) : Prop where
  reads : readPipe port = none
  writes : ∀ pipe, writtenPipe port = some pipe → low ≤ pipe ∧ pipe < high

theorem Outlet.writesWithin {pipe : Nat} {sink : Sink} {target : Option Port} {port : Port}
    {drains : List (Nat × Option Sink)} {next : Nat} (outlet : Outlet pipe sink target port drains next)
    (file : target.bind readPipe = none ∧ target.bind writtenPipe = none) : WritesWithin pipe next port where
  reads := outlet.readPipe_eq file.1
  writes := by
    intro written found
    cases outlet with
    | file => cases file.2.symm.trans found
    | pipe =>
        cases found
        omega

namespace State

/-- The processes are those of stages, and every pipe leads from one of them to a
later one. -/
structure Layered (state : State) : Prop where
  plain : ∀ (index : Nat) (process : Process), state.processes[index]? = some process → process.Plain
  bounded : ∀ (index : Nat) (process : Process) (pipe : Nat), state.processes[index]? = some process →
    process.holdings.reads pipe = true ∨ process.holdings.writes pipe = true → pipe < state.pipes.length
  ordered : ∀ (left right : Nat) (writer reader : Process) (pipe : Nat), state.processes[left]? = some writer →
    state.processes[right]? = some reader → writer.holdings.writes pipe = true → reader.holdings.reads pipe = true →
    left < right
  held : ∀ pipe, state.conductor.held = some pipe → pipe < state.pipes.length

/-! ## How the row grows -/

theorem Layered.evolve {before after : State} (layered : before.Layered) (evolves : Evolves before after)
    (pipes : before.pipes.length ≤ after.pipes.length)
    (held : ∀ pipe, after.conductor.held = some pipe → before.conductor.held = some pipe) : after.Layered where
  plain := by
    intro index process found
    obtain ⟨earlier, foundEarlier, evolved⟩ := evolves.process index process found
    exact evolved.plain (layered.plain index earlier foundEarlier)
  bounded := by
    intro index process pipe found uses
    obtain ⟨earlier, foundEarlier, evolved⟩ := evolves.process index process found
    rw [evolved.holdings] at uses
    exact Nat.lt_of_lt_of_le (layered.bounded index earlier pipe foundEarlier uses) pipes
  ordered := by
    intro left right writer reader pipe foundLeft foundRight writes reads
    obtain ⟨earlierWriter, foundWriter, evolvedWriter⟩ := evolves.process left writer foundLeft
    obtain ⟨earlierReader, foundReader, evolvedReader⟩ := evolves.process right reader foundRight
    rw [evolvedWriter.holdings] at writes
    rw [evolvedReader.holdings] at reads
    exact layered.ordered left right earlierWriter earlierReader pipe foundWriter foundReader writes reads
  held := fun pipe found => Nat.lt_of_lt_of_le (layered.held pipe (held pipe found)) pipes

theorem Launched.process_cases {before after : State} {stage : Stage} {launch : Launch}
    {drains : List (Nat × Option Sink)} {held : Option Nat} (launched : Launched before stage launch drains held after)
    {index : Nat} {process : Process} (found : after.processes[index]? = some process) :
    before.processes[index]? = some process ∧ index < launch.index ∨
      index = launch.index ∧ process = launch.process := by
  rw [launched.processes] at found
  rw [launched.index]
  rcases Nat.lt_trichotomy index before.processes.length with less | rfl | more
  · rw [List.getElem?_append_left less] at found
    exact .inl ⟨found, less⟩
  · rw [List.getElem?_concat_length] at found
    exact .inr ⟨rfl, (Option.some.inj found).symm⟩
  · rw [List.getElem?_eq_none (by simp; omega)] at found
    cases found

/-- A stage that reads an earlier pipe and writes new ones can be added at the end. -/
theorem Layered.launch {before after : State} {stage : Stage} {launch : Launch} {drains : List (Nat × Option Sink)}
    {held : Option Nat} {input output error : Port} (layered : before.Layered)
    (launched : Launched before stage launch drains held after) (streams : launch.Streams input output error)
    (filter : launch.process.program.IsFilter) (unwritten : writtenPipe input = none)
    (reads : ∀ pipe, readPipe input = some pipe → pipe < before.pipes.length)
    (pipes : before.pipes.length ≤ after.pipes.length)
    (outputNew : WritesWithin before.pipes.length after.pipes.length output)
    (errorNew : WritesWithin before.pipes.length after.pipes.length error)
    (heldNew : ∀ pipe, held = some pipe → pipe < after.pipes.length) : after.Layered := by
  have old : ∀ pipe, launch.process.holdings.reads pipe = true → pipe < before.pipes.length := by
    intro pipe used
    have member := Launch.mem_inlets used
    rw [streams.inlets, outputNew.reads, errorNew.reads] at member
    exact reads pipe (by simpa using member)
  have new : ∀ pipe, launch.process.holdings.writes pipe = true →
      before.pipes.length ≤ pipe ∧ pipe < after.pipes.length := by
    intro pipe used
    have member := Launch.mem_outlets used
    rw [streams.outlets, unwritten] at member
    rcases List.mem_append.mp member with first | last
    · exact outputNew.writes pipe (by simpa using first)
    · exact errorNew.writes pipe (by simpa using last)
  constructor
  case plain =>
    intro index process found
    rcases launched.process_cases found with ⟨earlier, _⟩ | ⟨_, rfl⟩
    · exact layered.plain index process earlier
    · refine ⟨filter, ?_, input, output, error, ?_, unwritten, outputNew.reads, errorNew.reads⟩
      · rw [streams]
      · rw [streams]
  case bounded =>
    intro index process pipe found uses
    rcases launched.process_cases found with ⟨earlier, _⟩ | ⟨_, rfl⟩
    · exact Nat.lt_of_lt_of_le (layered.bounded index process pipe earlier uses) pipes
    · rcases uses with used | used
      · exact Nat.lt_of_lt_of_le (old pipe used) pipes
      · exact (new pipe used).2
  case ordered =>
    intro left right writer reader pipe foundLeft foundRight writes reads
    rcases launched.process_cases foundLeft with ⟨earlierLeft, less⟩ | ⟨rfl, rfl⟩
    · rcases launched.process_cases foundRight with ⟨earlierRight, _⟩ | ⟨rfl, rfl⟩
      · exact layered.ordered left right writer reader pipe earlierLeft earlierRight writes reads
      · exact less
    · -- The new stage writes only new pipes, and nobody reads one of those.
      have high := (new pipe writes).1
      rcases launched.process_cases foundRight with ⟨earlierRight, _⟩ | ⟨rfl, rfl⟩
      · have low := layered.bounded right reader pipe earlierRight (.inl reads)
        omega
      · have low := old pipe reads
        omega
  case held =>
    intro pipe found
    rw [launched.conductor] at found
    exact heldNew pipe found

/-! ## Who can move -/

/-- Somebody other than the clock can move. -/
def CanMove (host : Host) (state : State) : Prop :=
  ∃ actor after, actor ≠ .clock ∧ state.move host actor = some after

theorem canMove_of_turn {host : Host} {state after : State} (actor : Actor) (alive : state.killed = none)
    (different : actor ≠ .clock) (turned : state.turn host actor = some after) : state.CanMove host :=
  ⟨actor, after, different, by simp [move, alive, turned]⟩

/-- A reader waits only for a pipe that is empty and can still be written. -/
theorem exists_pull {state : State} {pipe : Nat} (limit : Nat)
    (ready : state.hasWriter pipe = false ∨ ∀ content, state.pipes[pipe]? = some content → content.size ≠ 0) :
    ∃ after answer, state.pull (some (.reader pipe)) limit = some (after, answer) := by
  simp only [pull]
  cases found : state.pipes[pipe]? with
  | none => exact ⟨_, _, rfl⟩
  | some content =>
      dsimp only
      split
      · next empty =>
          rcases ready with dry | filled
          · rw [dry]
            exact ⟨_, _, rfl⟩
          · exact absurd empty (filled content found)
      · exact ⟨_, _, rfl⟩

theorem exists_move_copier {host : Host} {state : State} {number : Nat} {copier : Copier} (alive : state.killed = none)
    (found : state.copiers[number]? = some copier) (undone : copier.isDone = false)
    (ready : state.hasWriter copier.pipe = false ∨
      ∀ content, state.pipes[copier.pipe]? = some content → content.size ≠ 0) :
    ∃ after, state.move host (.copier number) = some after := by
  have moves : ∃ after, state.moveCopier host number copier = some after := by
    unfold moveCopier
    cases pending : copier.pending with
    | cons piece rest =>
        dsimp only
        split <;> exact ⟨_, rfl⟩
    | nil =>
        cases drain : copier.drain with
        | none => simp [Copier.isDone, pending, drain] at undone
        | some drain =>
            obtain ⟨after, answer, pulled⟩ := exists_pull readLimit ready
            dsimp only
            rw [pulled]
            exact ⟨_, rfl⟩
  obtain ⟨after, moved⟩ := moves
  exact ⟨after, by simp [move, alive, turn, found, moved]⟩

theorem canMove_of_copier {host : Host} {state : State} {number : Nat} {copier : Copier} (alive : state.killed = none)
    (found : state.copiers[number]? = some copier) (undone : copier.isDone = false)
    (ready : state.hasWriter copier.pipe = false ∨
      ∀ content, state.pipes[copier.pipe]? = some content → content.size ≠ 0) : state.CanMove host := by
  obtain ⟨after, moved⟩ := exists_move_copier alive found undone ready
  exact ⟨.copier number, after, by simp, moved⟩

namespace Layered

variable {host : Host} {state : State}

theorem canMove_of_moveProcess (layered : state.Layered) {after : State} {index : Nat} {process : Process}
    (alive : state.killed = none) (found : state.processes[index]? = some process) (running : process.isRunning = true)
    (moved : state.moveProcess host index process = some after) : state.CanMove host := by
  have turned : state.turn host (.process index) = some after := by
    simp [turn, found, running, (layered.plain index process found).awake, moved]
  exact canMove_of_turn (.process index) alive (by simp) turned

/-- The reader of a full pipe either moves or waits for a reader itself. -/
theorem canMove_of_choked (layered : state.Layered) (alive : state.killed = none)
    (held : state.conductor.held = none) (roomy : 1 ≤ host.capacity) {index : Nat} {process : Process}
    (found : state.processes[index]? = some process) (choked : state.Choked host process) : state.CanMove host := by
  -- The chain of readers leads to the right, so the induction is on how many are left there.
  generalize distance : state.processes.length - index = left
  induction left using Nat.strongRecOn generalizing index process with
  | ind left ih =>
      obtain ⟨pipe, content, writes, content_eq, full, reader⟩ := choked
      have filled : ∀ other, state.pipes[pipe]? = some other → other.size ≠ 0 := by
        intro other same
        obtain rfl := Option.some.inj (content_eq.symm.trans same)
        omega
      simp only [hasReader, held, Bool.or_eq_true, List.any_eq_true, Bool.and_eq_true, Bool.not_eq_true', beq_iff_eq,
        reduceCtorEq, false_or] at reader
      rcases reader with ⟨other, member, reads⟩ | ⟨copier, member, rfl, undone⟩
      · obtain ⟨place, foundOther⟩ := List.mem_iff_getElem?.mp member
        obtain ⟨running, reads⟩ := Bool.and_eq_true_iff.mp reads
        have further : index < place := layered.ordered index place process other pipe found foundOther writes reads
        have bound := (List.getElem?_eq_some_iff.mp foundOther).1
        cases moved : state.moveProcess host place other with
        | some after => exact layered.canMove_of_moveProcess alive foundOther running moved
        | none =>
            have plain := layered.plain place other foundOther
            rcases blocked_cases plain moved with thirsty | choked
            · obtain ⟨same, otherContent, leads, otherEq, empty, _⟩ := thirsty
              rw [plain.port_of_reads reads, Option.some.injEq, Port.reader.injEq] at leads
              subst leads
              exact absurd empty (filled otherContent otherEq)
            · exact ih (state.processes.length - place) (by omega) foundOther choked rfl
      · obtain ⟨number, foundCopier⟩ := List.mem_iff_getElem?.mp member
        exact canMove_of_copier alive foundCopier undone (.inr filled)

/-- As long as a stage runs, somebody can move. -/
theorem canMove_of_running (layered : state.Layered) (alive : state.killed = none)
    (held : state.conductor.held = none) (roomy : 1 ≤ host.capacity) {index : Nat} {process : Process}
    (found : state.processes[index]? = some process) (running : process.isRunning = true) : state.CanMove host := by
  -- The chain of writers leads to the left, towards the first stage.
  induction index using Nat.strongRecOn generalizing process with
  | ind index ih =>
      cases moved : state.moveProcess host index process with
      | some after => exact layered.canMove_of_moveProcess alive found running moved
      | none =>
          rcases blocked_cases (layered.plain index process found) moved with thirsty | choked
          · obtain ⟨pipe, _, leads, _, _, writer⟩ := thirsty
            obtain ⟨other, member, writes⟩ := List.any_eq_true.mp writer
            obtain ⟨place, foundOther⟩ := List.mem_iff_getElem?.mp member
            obtain ⟨otherRunning, writes⟩ := Bool.and_eq_true_iff.mp writes
            have before : place < index :=
              layered.ordered place index other process pipe foundOther found writes (reads_of_port leads)
            exact ih place before foundOther otherRunning
          · exact layered.canMove_of_choked alive held roomy found choked

end Layered

end State

end PipeShell.Pipeline
