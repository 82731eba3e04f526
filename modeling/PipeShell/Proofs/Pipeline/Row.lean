import Mathlib.Data.List.Nodup
import PipeShell.Proofs.Pipeline.Filters
import PipeShell.Proofs.Pipeline.Yielding

/-! # Stages in a row

When a line is the first one that is carried out, the numbers of its processes, of its
pipes and of its drains can be told in advance: stage `i` is process `i` and writes to the
pipes `2 * i` and `2 * i + 1`, unless a stream of the last stage goes to a file. -/

set_option autoImplicit false

namespace PipeShell.Pipeline

open PipeShell.System

/-- A row of stages. -/
structure Row where
  /-- The index of the last stage. -/
  last : Nat
  /-- The entry of the open files that the first stage reads. -/
  source : Nat
  /-- The entry that takes the output of the last stage, unless it is captured. -/
  output : Option Nat
  /-- The entry that takes its errors, unless they are captured. -/
  error : Option Nat

namespace Row

/-- The entry of the open files that takes what the last stage writes for a sink. -/
def target (row : Row) : Sink → Option Nat
  | .output => row.output
  | .error => row.error

/-- The entry of the open files that takes a stream of a stage. -/
def exit (row : Row) (index : Nat) (sink : Sink) : Option Nat :=
  if index = row.last then row.target sink else none

/-- The pipe that takes a stream of a stage, unless a file does. -/
def pipe (row : Row) (index : Nat) : Sink → Nat
  | .output => 2 * index
  | .error => if index = row.last ∧ row.output.isSome then 2 * index else 2 * index + 1

def port (row : Row) (index : Nat) (sink : Sink) : Port :=
  match row.exit index sink with
  | some slot => .file slot
  | none => .writer (row.pipe index sink)

def inlet (row : Row) : Nat → Port
  | 0 => .file row.source
  | index + 1 => .reader (row.pipe index .output)

def holdings (row : Row) (index : Nat) : Holdings where
  ports := [(0, row.inlet index), (1, row.port index .output), (2, row.port index .error)]

/-- The streams of a stage that are drained, in the order in which their drains start. -/
def drains (row : Row) (index : Nat) : List (Nat × Sink) :=
  ([.error, .output].filter fun sink => (sink = .error ∨ index = row.last) ∧ row.exit index sink = none).map (index, ·)

def drained (row : Row) (count : Nat) : List (Nat × Sink) := (List.range count).flatMap row.drains

def added (row : Row) (index : Nat) : Nat := ([.output, .error].filter fun sink => row.exit index sink = none).length

/-- The pipe whose reading end waits for the stage with an index. -/
def held (row : Row) : Nat → Option Nat
  | 0 => none
  | index + 1 => if index < row.last then some (row.pipe index .output) else none

section Ports

variable {row : Row} {index other : Nat} {sink another : Sink}

theorem port?_input : (row.holdings index).port? Program.inputDescriptor = some (row.inlet index) := rfl

theorem port?_descriptor : (row.holdings index).port? sink.descriptor = some (row.port index sink) := by
  cases sink <;> rfl

theorem exit_inner (inner : index < row.last) : row.exit index sink = none := by
  rw [exit, if_neg (Nat.ne_of_lt inner)]

theorem port_of_exit {slot : Nat} (leads : row.exit index sink = some slot) : row.port index sink = .file slot := by
  rw [port, leads]

theorem port_of_captured (captured : row.exit index sink = none) :
    row.port index sink = .writer (row.pipe index sink) := by
  rw [port, captured]

theorem le_pipe (row : Row) (index : Nat) (sink : Sink) :
    2 * index ≤ row.pipe index sink ∧ row.pipe index sink ≤ 2 * index + 1 := by
  cases sink with
  | output => exact ⟨Nat.le_refl _, Nat.le_succ _⟩
  | error =>
      simp only [pipe]
      split <;> omega

/-- Every stream has a pipe of its own. -/
theorem pipe_inj (first : row.exit index sink = none) (second : row.exit other another = none)
    (same : row.pipe index sink = row.pipe other another) : index = other ∧ sink = another := by
  have here := row.le_pipe index sink
  have there := row.le_pipe other another
  obtain rfl : index = other := by omega
  refine ⟨rfl, ?_⟩
  cases sink <;> cases another
  · rfl
  · simp only [pipe] at same
    split at same
    · next shared =>
        rw [exit, if_pos shared.1, target] at first
        rw [first] at shared
        cases shared.2
    · omega
  · simp only [pipe] at same
    split at same
    · next shared =>
        rw [exit, if_pos shared.1, target] at second
        rw [second] at shared
        cases shared.2
    · omega
  · rfl

theorem writes_iff {number : Nat} :
    (row.holdings index).writes number = true ↔ ∃ sink, row.port index sink = .writer number := by
  have inlet : row.inlet index ≠ .writer number := by
    cases index <;> exact fun same => nomatch same
  constructor
  · intro writes
    have found : row.port index .output = .writer number ∨ row.port index .error = .writer number := by
      simpa [Holdings.writes, holdings, inlet] using writes
    rcases found with output | error
    · exact ⟨.output, output⟩
    · exact ⟨.error, error⟩
  · rintro ⟨sink, leads⟩
    exact writes_of_port (port?_descriptor.trans (congrArg some leads))

theorem reads_iff {number : Nat} : (row.holdings index).reads number = true ↔ row.inlet index = .reader number := by
  have outlet (sink : Sink) : row.port index sink ≠ .reader number := by
    unfold port
    split <;> exact fun same => nomatch same
  simp [Holdings.reads, holdings, outlet]

/-- Every pipe between stages leads to the right. -/
theorem lt_of_writes {number : Nat} (bound : other ≤ row.last) (writes : (row.holdings index).writes number = true)
    (reads : row.inlet other = .reader number) : index < other := by
  obtain ⟨sink, leads⟩ := writes_iff.mp writes
  cases other with
  | zero => cases reads
  | succ other =>
      obtain rfl := Port.reader.inj reads
      unfold port at leads
      split at leads
      · cases leads
      · next captured =>
          obtain ⟨rfl, _⟩ := pipe_inj captured (exit_inner bound) (Port.writer.inj leads)
          exact Nat.lt_succ_self index

/-! ## Drains -/

theorem mem_drained {count : Nat} {stream : Nat × Sink} :
    stream ∈ row.drained count ↔
      stream.1 < count ∧ (stream.2 = .error ∨ stream.1 = row.last) ∧ row.exit stream.1 stream.2 = none := by
  obtain ⟨index, sink⟩ := stream
  simp only [drained, drains, List.mem_flatMap, List.mem_range, List.mem_map, List.mem_filter, decide_eq_true_eq]
  constructor
  · rintro ⟨_, bound, _, ⟨_, leads⟩, same⟩
    cases same
    exact ⟨bound, leads⟩
  · rintro ⟨bound, leads⟩
    refine ⟨index, bound, sink, ⟨?_, leads⟩, rfl⟩
    cases sink <;> simp

theorem nodup_drained (row : Row) (count : Nat) : (row.drained count).Nodup := by
  apply List.nodup_flatMap.mpr
  constructor
  · intro index _
    apply List.Nodup.map (fun _ _ same => (Prod.mk.inj same).2)
    apply List.Nodup.filter
    decide
  · apply List.nodup_range.imp
    intro index other different stream first second
    obtain ⟨_, _, rfl⟩ := List.mem_map.mp first
    obtain ⟨_, _, same⟩ := List.mem_map.mp second
    exact different (Prod.mk.inj same).1.symm

theorem drained_succ (row : Row) (count : Nat) : row.drained (count + 1) = row.drained count ++ row.drains count := by
  simp [drained, List.range_succ]

/-- The output of an inner stage is not drained. -/
theorem pipe_ne_of_drained {count : Nat} (member : (index, sink) ∈ row.drained count) (inner : other < row.last) :
    row.pipe index sink ≠ row.pipe other .output := by
  intro same
  obtain ⟨_, leads, captured⟩ := mem_drained.mp member
  obtain ⟨rfl, rfl⟩ := pipe_inj captured (exit_inner inner) same
  rcases leads with error | last
  · cases error
  · exact Nat.ne_of_lt inner last

end Ports

/-! ## Starting the next stage -/

def copier (row : Row) (stream : Nat × Sink) : Copier :=
  { pipe := row.pipe stream.1 stream.2, sink := some stream.2 }

/-- The ends of a line lead where the row does. -/
structure Ends (row : Row) (state : State) : Prop where
  input : state.input = .file row.source
  output : state.output = row.output.map .file
  error : state.error = row.error.map .file

theorem pipe_lt {row : Row} {index : Nat} {sink : Sink} (captured : row.exit index sink = none) :
    row.pipe index sink < 2 * index + row.added index := by
  by_cases last : index = row.last
  · cases sink <;> cases output : row.output <;> cases error : row.error <;>
      simp_all [pipe, added, exit, target]
  · have here := row.le_pipe index sink
    have two : row.added index = 2 := by simp [added, exit, last]
    omega

theorem added_inner {row : Row} {index : Nat} (inner : index < row.last) : row.added index = 2 := by
  simp [added, exit_inner inner]

/-- The state after the stage with an index was started. -/
theorem launch_eq {row : Row} {state : State} (ends : row.Ends state) {index : Nat} (bound : index ≤ row.last)
    (processes : state.processes.length = index) (pipes : state.pipes.length = 2 * index)
    (held : state.conductor.held = row.held index) (stage : Stage) (program : Program) :
    state.launch stage program (index = 0) (index = row.last) = { state with
      pipes := state.pipes ++ List.replicate (row.added index) .empty
      processes := state.processes ++ [{ program, holdings := row.holdings index }]
      copiers := state.copiers ++ (row.drains index).map row.copier
      conductor := { state.conductor with
        children := state.conductor.children ++ [⟨stage.program, index⟩]
        held := row.held (index + 1) } } := by
  have input : state.stageInput (index = 0) = row.inlet index := by
    cases index with
    | zero => exact ends.input
    | succ index =>
        rw [Row.held, if_pos (by omega)] at held
        simp [State.stageInput, held, inlet]
  obtain ⟨_, output, error⟩ := ends
  rcases Nat.lt_or_eq_of_le bound with inner | rfl
  · have different : index ≠ row.last := Nat.ne_of_lt inner
    simp [State.launch, State.stageOutlet, State.copierOf, input, different, processes, pipes, holdings, port, exit,
      drains, Row.held, inner, copier, pipe, added, List.replicate]
  · -- Each stream of the last stage makes a pipe or goes to a file.
    cases outputSlot : row.output <;> cases errorSlot : row.error <;>
      simp [State.launch, State.stageOutlet, State.copierOf, input, processes, pipes, holdings, port, exit, drains,
        Row.held, copier, pipe, added, List.replicate, output, error, target, outputSlot, errorSlot]

end Row

end PipeShell.Pipeline
