import PipeShell.Proofs.Pipeline.Starting

/-! # Programs that only read and write

A stage that reads its input, writes its output and its errors and ends neither waits
for others nor passes its descriptors on. The process of such a stage holds what it
was started with for as long as it runs, and whether it can move is decided by the
pipes alone. -/

set_option autoImplicit false

namespace PipeShell

open PipeShell.System

/-- A program that reads its input, writes its output and its errors, works on files
and ends. -/
inductive Program.IsFilter : Program → Prop where
  | exit {status : ExitStatus} : IsFilter (.exit status)
  | read {limit : Nat} {next : Except Errno Bytes → Program} :
      (∀ answer, IsFilter (next answer)) → IsFilter (.read inputDescriptor limit next)
  | write {descriptor : Nat} {data : Bytes} {next : Option Errno → Program} :
      descriptor = outputDescriptor ∨ descriptor = errorDescriptor → (∀ answer, IsFilter (next answer)) →
      IsFilter (.write descriptor data next)
  | files {change : FileSystem → FileSystem} {next : FileSystem → Program} :
      (∀ files, IsFilter (next files)) → IsFilter (.files change next)

namespace Pipeline

/-! ## Processes -/

/-- The process of a stage: its input is no writing end, and its output and errors are
no reading ends. -/
structure Process.Plain (process : Process) : Prop where
  filter : process.program.IsFilter
  awake : process.stopped = false
  holdings : ∃ input output error, process.holdings = { ports := [(0, input), (1, output), (2, error)] } ∧
    writtenPipe input = none ∧ readPipe output = none ∧ readPipe error = none

namespace Process.Plain

variable {process : Process}

theorem port_of_reads (plain : process.Plain) {pipe : Nat} (reads : process.holdings.reads pipe = true) :
    process.holdings.port? Program.inputDescriptor = some (.reader pipe) := by
  obtain ⟨input, output, error, holdings, _, noOutput, noError⟩ := plain.holdings
  rw [holdings] at reads ⊢
  have found : input = .reader pipe ∨ output = .reader pipe ∨ error = .reader pipe := by
    simpa [Holdings.reads] using reads
  rcases found with rfl | rfl | rfl
  · rfl
  · cases noOutput
  · cases noError

end Process.Plain

theorem mem_of_port {holdings : Holdings} {descriptor : Nat} {port : Port}
    (leads : holdings.port? descriptor = some port) : (descriptor, port) ∈ holdings.ports := by
  obtain ⟨before, after, split, _⟩ := List.lookup_eq_some_iff.mp leads
  rw [split]
  exact List.mem_append_right before List.mem_cons_self

theorem reads_of_port {holdings : Holdings} {descriptor pipe : Nat}
    (leads : holdings.port? descriptor = some (.reader pipe)) : holdings.reads pipe = true :=
  List.any_eq_true.mpr ⟨_, mem_of_port leads, by simp⟩

theorem writes_of_port {holdings : Holdings} {descriptor pipe : Nat}
    (leads : holdings.port? descriptor = some (.writer pipe)) : holdings.writes pipe = true :=
  List.any_eq_true.mpr ⟨_, mem_of_port leads, by simp⟩

/-- What may become of a process of a stage in one move. -/
structure Process.Evolves (earlier later : Process) : Prop where
  holdings : later.holdings = earlier.holdings
  running : later.isRunning = true → earlier.isRunning = true
  plain : earlier.Plain → later.Plain

theorem Process.Evolves.refl (process : Process) : process.Evolves process := ⟨rfl, id, id⟩

private theorem Process.Evolves.trans {first second third : Process} (one : first.Evolves second)
    (two : second.Evolves third) : first.Evolves third where
  holdings := two.holdings.trans one.holdings
  running := fun running => one.running (two.running running)
  plain := fun plain => two.plain (one.plain plain)

private theorem Process.Evolves.of_ages {earlier later : Process} (ages : State.Ages earlier later) :
    earlier.Evolves later where
  holdings := ages.holdings
  running := ages.running
  plain := fun plain => ⟨ages.program ▸ plain.filter, ages.stopped.trans plain.awake, ages.holdings ▸ plain.holdings⟩

theorem Process.Evolves.goOn (process : Process) {program : Program} (filter : program.IsFilter) :
    process.Evolves { process with program } :=
  ⟨rfl, id, fun plain => ⟨filter, plain.awake, plain.holdings⟩⟩

namespace State

/-! ## Moves of such processes -/

/-- The processes are the same ones, further on, and the shell is as alive as it was. -/
structure Evolves (before after : State) : Prop where
  killed : after.killed = before.killed
  length : after.processes.length = before.processes.length
  process : ∀ (index : Nat) (later : Process), after.processes[index]? = some later →
    ∃ earlier, before.processes[index]? = some earlier ∧ earlier.Evolves later

namespace Evolves

theorem ofProcesses {before after : State} (killed : after.killed = before.killed)
    (processes : after.processes = before.processes) : Evolves before after where
  killed := killed
  length := by rw [processes]
  process := by
    intro index later found
    exact ⟨later, processes ▸ found, .refl later⟩

theorem refl (state : State) : Evolves state state := ofProcesses rfl rfl

theorem trans {first second third : State} (one : Evolves first second) (two : Evolves second third) :
    Evolves first third where
  killed := two.killed.trans one.killed
  length := two.length.trans one.length
  process := by
    intro index later found
    obtain ⟨middle, foundMiddle, second⟩ := two.process index later found
    obtain ⟨earlier, foundEarlier, first⟩ := one.process index middle foundMiddle
    exact ⟨earlier, foundEarlier, first.trans second⟩

theorem modify (state : State) (index : Nat) {change : Process → Process}
    (evolves : ∀ process : Process, process.Evolves (change process)) :
    Evolves state { state with processes := state.processes.modify index change } where
  killed := rfl
  length := by simp
  process := by
    intro other later found
    obtain ⟨earlier, foundEarlier, rfl⟩ := Option.map_eq_some_iff.mp ((List.getElem?_modify ..).symm.trans found)
    refine ⟨earlier, foundEarlier, ?_⟩
    split
    · exact evolves earlier
    · exact .refl earlier

private theorem goOn (state : State) (index : Nat) {program : Program} (filter : program.IsFilter) :
    Evolves state { state with processes := state.processes.modify index fun process => { process with program } } :=
  modify state index fun process => .goOn process filter

theorem ofAged {before after : State} (killed : after.killed = before.killed)
    (aged : Aged before.processes after.processes) : Evolves before after where
  killed := killed
  length := aged.length
  process := by
    intro index later found
    obtain ⟨earlier, foundEarlier, ages⟩ := aged.process index later found
    exact ⟨earlier, foundEarlier, .of_ages ages⟩

private theorem finish (state : State) (index : Nat) (status : ExitStatus) :
    Evolves state (state.finish index status) :=
  ofAged rfl (aged_finish state index status)

/-- After the last start the thread only ends processes and waits for them. -/
theorem act {host : Host} {state after : State} {action : Action} (later : action.isStarting = false)
    (acted : state.act host action = some after) : Evolves state after := by
  obtain ⟨processes, log, conductor, rfl, aged, _⟩ := act_eq later acted
  exact ofAged rfl aged

theorem pull {state after : State} {port : Option Port} {limit : Nat} {answer : Except Errno Bytes}
    (pulled : state.pull port limit = some (after, answer)) : Evolves state after := by
  rcases Undisturbed.pull_cases pulled with rfl | ⟨_, _, _, _, _, rfl⟩ | ⟨_, _, _, rfl⟩
  · exact refl _
  · exact ofProcesses rfl rfl
  · exact ofProcesses rfl rfl

private theorem push {host : Host} {state after : State} {port : Option Port} {data : Bytes} {written : Written}
    (pushed : state.push host port data = some (after, written)) : Evolves state after := by
  rcases Undisturbed.push_cases pushed with rfl | ⟨_, _, _, _, _, _, rfl⟩ | ⟨_, _, _, rfl⟩
  · exact refl _
  · exact ofProcesses rfl rfl
  · exact ofProcesses rfl rfl

private theorem strike_brokenPipe (state : State) (index : Nat) {process : Process} (plain : process.Plain) :
    state.strike index process brokenPipeSignal = state.finish index (.signal brokenPipeSignal) := by
  obtain ⟨input, output, error, holdings, _⟩ := plain.holdings
  have usual : process.holdings.plan brokenPipeSignal = .usual := by
    rw [holdings]
    rfl
  have unblocked : process.holdings.blocked.contains brokenPipeSignal = false := by
    rw [holdings]
    rfl
  have ordinary : brokenPipeSignal ≠ continueSignal ∧ finalSignals.contains brokenPipeSignal = false ∧
      stopSignals.contains brokenPipeSignal = false ∧ harmlessSignals.contains brokenPipeSignal = false := by
    decide
  obtain ⟨notContinue, notFinal, notStop, notHarmless⟩ := ordinary
  simp only [State.strike, notContinue, notFinal, unblocked, usual, notStop, notHarmless, if_false, Bool.false_eq_true]

theorem moveProcess {host : Host} {state after : State} {index : Nat} {process : Process} (plain : process.Plain)
    (moved : state.moveProcess host index process = some after) : Evolves state after := by
  have filter := plain.filter
  cases behaves_of_moveProcess moved with
  | exit => exact finish state index _
  | read behaviour pulled =>
      rw [behaviour] at filter
      cases filter with
      | read nextFilter => exact (pull pulled).trans (goOn _ index (nextFilter _))
  | wrote behaviour pushed =>
      rw [behaviour] at filter
      cases filter with
      | write _ nextFilter => exact (push pushed).trans (goOn _ index (nextFilter none))
  | wrotePart behaviour pushed =>
      rw [behaviour] at filter
      cases filter with
      | write leads nextFilter => exact (push pushed).trans (goOn _ index (.write leads nextFilter))
  | @refused _ _ _ between failure behaviour pushed =>
      rw [behaviour] at filter
      cases filter with
      | write _ nextFilter =>
          refine ((push pushed).trans ?_).trans (modify _ index ?_)
          · split
            · rw [strike_brokenPipe between index plain]
              exact finish between index _
            · exact refl between
          · intro process
            split
            · exact .goOn process (nextFilter (some failure))
            · exact .refl process
  | files behaviour =>
      rw [behaviour] at filter
      cases filter with
      | files nextFilter =>
          have changed (files : FileSystem) : Evolves state { state with files } := ofProcesses rfl rfl
          exact (changed _).trans (goOn _ index (nextFilter _))
  | adjust behaviour | attach behaviour | pipe behaviour | inspect behaviour | sought behaviour | unsought behaviour
  | fork behaviour | wait behaviour | signal behaviour | noted behaviour | asleep behaviour | awake behaviour =>
      -- Filters do nothing of the kind.
      rw [behaviour] at filter
      cases filter

theorem moveCopier {host : Host} {state after : State} {number : Nat} {copier : Copier}
    (moved : state.moveCopier host number copier = some after) : Evolves state after := by
  unfold State.moveCopier at moved
  split at moved
  · dsimp only at moved
    split at moved <;> cases moved <;> exact ofProcesses rfl rfl
  · split at moved
    · cases moved
    · split at moved
      · cases moved
      · next pulled =>
          cases moved
          exact (pull pulled).trans (ofProcesses rfl rfl)

end Evolves

/-! ## Who is blocked -/

/-- The process waits for somebody to write its input. -/
def Thirsty (state : State) (process : Process) : Prop :=
  ∃ pipe content, process.holdings.port? Program.inputDescriptor = some (.reader pipe) ∧
    state.pipes[pipe]? = some content ∧ content.size = 0 ∧ state.hasWriter pipe = true

/-- The process waits for somebody to read what it writes. -/
def Choked (host : Host) (state : State) (process : Process) : Prop :=
  ∃ pipe content, process.holdings.writes pipe = true ∧ state.pipes[pipe]? = some content ∧
    host.capacity ≤ content.size ∧ state.hasReader pipe = true

theorem thirsty_of_pull {state : State} {process : Process} {limit : Nat}
    (blocked : state.pull (process.holdings.port? Program.inputDescriptor) limit = none) : state.Thirsty process := by
  unfold pull at blocked
  split at blocked
  · cases blocked
  · cases blocked
  · cases blocked
  · split at blocked
    · cases blocked
    · split at blocked <;> cases blocked
  · next pipe leads =>
      split at blocked
      · cases blocked
      · next content found =>
          split at blocked
          · next empty =>
              split at blocked
              · next writer => exact ⟨pipe, content, leads, found, empty, writer⟩
              · cases blocked
          · cases blocked

theorem choked_of_push {host : Host} {state : State} {process : Process} {descriptor : Nat} {data : Bytes}
    (blocked : state.push host (process.holdings.port? descriptor) data = none) : state.Choked host process := by
  unfold push at blocked
  split at blocked
  · cases blocked
  · cases blocked
  · cases blocked
  · split at blocked
    · cases blocked
    · split at blocked <;> cases blocked
  · next pipe leads =>
      split at blocked
      · cases blocked
      · next content found =>
          split at blocked
          · cases blocked
          · split at blocked
            · cases blocked
            · next reader =>
                dsimp only at blocked
                split at blocked
                · next full =>
                    exact ⟨pipe, content, writes_of_port leads, found, by omega, by simpa using reader⟩
                · split at blocked <;> cases blocked

/-- A stage that cannot move waits for one of its neighbours or for a drain. -/
theorem blocked_cases {host : Host} {state : State} {index : Nat} {process : Process} (plain : process.Plain)
    (blocked : state.moveProcess host index process = none) : state.Thirsty process ∨ state.Choked host process := by
  have filter := plain.filter
  unfold moveProcess at blocked
  cases program : process.program with
  | exit status =>
      simp only [program] at blocked
      cases blocked
  | read descriptor limit next =>
      rw [program] at filter
      cases filter with
      | read nextFilter =>
          simp only [program] at blocked
          split at blocked
          · next stuck => exact .inl (thirsty_of_pull stuck)
          · cases blocked
  | write descriptor data next =>
      simp only [program] at blocked
      split at blocked
      · next stuck => exact .inr (choked_of_push stuck)
      · cases blocked
      · cases blocked
      · cases blocked
  | files change next =>
      simp only [program] at blocked
      cases blocked
  | _ =>
      rw [program] at filter
      cases filter

end State

end Pipeline

end PipeShell
