import Mathlib.Order.WellFounded
import PipeShell.Pipeline.Run
import PipeShell.Proofs.Pipeline.Interference

/-! # Runs of a pipeline

The moves that lead from one state to another, whoever makes them and in whatever
order, and the processes that the shell's thread starts on the way. The order in
which lines are really carried out is one of many. -/

set_option autoImplicit false

namespace PipeShell.Pipeline

open PipeShell.System

/-- One move of a run. -/
structure Move where
  before : State
  actor : Actor
  after : State

/-- A state is reached from another by some moves, in order. -/
inductive Run (host : Host) (start : State) : List Move → State → Prop where
  | idle : Run host start [] start
  | move {moves : List Move} {middle after : State} {actor : Actor} : Run host start moves middle →
      middle.move host actor = some after → Run host start (moves ++ [⟨middle, actor, after⟩]) after

/-- A process as it was right after the shell's thread started it. -/
structure Launch where
  index : Nat
  process : Process

/-- Where a descriptor of the process led when it was started. -/
def Launch.port (launch : Launch) (descriptor : Nat) : Option Port := launch.process.holdings.port? descriptor

/-- The processes that a move of the shell's thread adds; the others start none for
a line. -/
def Move.launches (move : Move) : List Launch :=
  match move.actor with
  | .conductor =>
    (move.after.processes.zipIdx.drop move.before.processes.length).map fun (process, index) => ⟨index, process⟩
  | _ => []

/-- All processes that the shell's thread starts in the course of some moves, in
order. -/
def launchesOf (moves : List Move) : List Launch := moves.flatMap Move.launches

theorem launchesOf_concat (moves : List Move) (move : Move) :
    launchesOf (moves ++ [move]) = launchesOf moves ++ move.launches := by
  simp [launchesOf]

/-- If a move starts a stage, the stage can be started. -/
def Move.Succeeds (host : Host) (move : Move) : Prop :=
  ∀ stage first last agenda, move.actor = .conductor →
    move.before.conductor.agenda = .spawn stage first last :: agenda →
    ∃ program, host.start (State.pidOf host move.before.processes.length) move.before.files
      (host.launcher.command stage.argv host.directory) = .ok program

/-! ## The schedule that is really taken -/

theorem Run.cons {host : Host} {start middle after : State} {actor : Actor} {moves : List Move}
    (first : start.move host actor = some middle) (run : Run host middle moves after) :
    Run host start (⟨start, actor, middle⟩ :: moves) after := by
  induction run with
  | idle => exact Run.move .idle first
  | move _ next ih => exact Run.move ih next

namespace State

/-- The state after some actors have moved, one after the other. -/
def follow (host : Host) (state : State) : List Actor → Option State
  | [] => some state
  | actor :: rest => (state.move host actor).bind fun after => after.follow host rest

theorem exists_run_of_follow {host : Host} {start state : State} {actors : List Actor}
    (followed : start.follow host actors = some state) : ∃ moves, Run host start moves state := by
  induction actors generalizing start with
  | nil =>
      obtain rfl := Option.some.inj followed
      exact ⟨[], .idle⟩
  | cons actor rest ih =>
      obtain ⟨middle, moved, followed⟩ := Option.bind_eq_some_iff.mp followed
      obtain ⟨moves, run⟩ := ih followed
      exact ⟨_, run.cons moved⟩

private theorem move_of_advanceProcess? {host : Host} {state after : State} {turn later : Turn}
    (advanced : state.advanceProcess? host turn = some (later, after)) :
    ∃ actor, state.move host actor = some after := by
  obtain ⟨index, _, moved⟩ := List.exists_of_findSome?_eq_some advanced
  obtain ⟨_, found, same⟩ := Option.map_eq_some_iff.mp moved
  obtain ⟨_, rfl⟩ := Prod.mk.inj same
  exact ⟨.process index, found⟩

private theorem move_of_advanceClock? {host : Host} {state after : State} {turn later : Turn}
    (advanced : state.advanceClock? host turn = some (later, after)) :
    ∃ actor, state.move host actor = some after := by
  obtain ⟨_, found, same⟩ := Option.map_eq_some_iff.mp advanced
  obtain ⟨_, rfl⟩ := Prod.mk.inj same
  exact ⟨.clock, found⟩

theorem move_of_advance? {host : Host} {deadline : Nat} {state after : State} {turn later : Turn}
    (advanced : state.advance? host deadline turn = some (later, after)) :
    ∃ actor, state.move host actor = some after := by
  unfold advance? at advanced
  split at advanced
  · next found =>
      cases advanced
      split at found
      · exact move_of_advanceProcess? found
      · cases found
  · split at advanced
    · next found =>
        cases advanced
        obtain ⟨actor, _, moved⟩ := List.exists_of_findSome?_eq_some found
        exact ⟨actor, moved⟩
    · split at advanced
      · split at advanced
        · rcases Option.or_eq_some_iff.mp advanced with process | ⟨_, clock⟩
          · exact move_of_advanceProcess? process
          · exact move_of_advanceClock? clock
        · rcases Option.or_eq_some_iff.mp advanced with clock | ⟨_, process⟩
          · exact move_of_advanceClock? clock
          · exact move_of_advanceProcess? process
      · split at advanced
        · exact move_of_advanceProcess? advanced
        · cases advanced

/-- However many moves are allowed, they make a run. -/
theorem exists_run (host : Host) (deadline bound : Nat) (turn : Turn) (state : State) :
    ∃ moves, Run host state moves (state.run host deadline bound turn) := by
  induction bound generalizing turn state with
  | zero => exact ⟨[], .idle⟩
  | succ bound ih =>
      unfold State.run
      split
      · exact ⟨[], .idle⟩
      · next later after advanced =>
          obtain ⟨actor, moved⟩ := move_of_advance? advanced
          obtain ⟨moves, run⟩ := ih later after
          exact ⟨_, run.cons moved⟩

/-! ## Where this schedule stops -/

private theorem lt_of_getElem?_ne_none {Item : Type} {items : List Item} {index : Nat} (found : items[index]? ≠ none) :
    index < items.length := by
  simpa using found

/-- Whoever could move before the time passes is a process or goes before the processes. -/
private theorem mem_of_move {host : Host} {state after : State} {actor : Actor} (turn : Turn)
    (moved : state.move host actor = some after) :
    actor ∈ state.quickActors ∨ (∃ index ∈ state.rotation turn, actor = .process index) ∨ actor = .clock := by
  unfold move at moved
  split at moved
  · cases moved
  · cases actor with
    | conductor => exact .inl List.mem_cons_self
    | reaper number =>
        have bound : number < state.reapers.length := by
          refine lt_of_getElem?_ne_none fun missing => ?_
          simp [State.turn, reap, missing] at moved
        exact .inl (by simp [quickActors, bound])
    | process index =>
        have bound : index < state.processes.length := by
          refine lt_of_getElem?_ne_none fun missing => ?_
          simp [State.turn, missing] at moved
        refine .inr (.inl ⟨index, ?_, rfl⟩)
        have whole := List.take_append_drop (if turn.moves < turnLimit then turn.process else turn.process + 1)
          (List.range state.processes.length)
        have member : index ∈ List.range state.processes.length := List.mem_range.mpr bound
        rw [← whole, List.mem_append] at member
        exact List.mem_append.mpr member.symm
    | copier number =>
        have bound : number < state.copiers.length := by
          refine lt_of_getElem?_ne_none fun missing => ?_
          simp [State.turn, missing] at moved
        exact .inl (by simp [quickActors, bound])
    | clock => exact .inr (.inr rfl)

/-- Before something is handed back, the schedule stops only when nobody can move. -/
theorem not_step_of_advance? {host : Host} {deadline : Nat} {turn : Turn} {state : State}
    (pending : state.conductor.outcome = none) (stopped : state.advance? host deadline turn = none) :
    ¬∃ after, Step host state after := by
  have awaited : state.isAwaited deadline = true := by simp [isAwaited, pending]
  unfold advance? at stopped
  split at stopped
  · cases stopped
  · split at stopped
    · cases stopped
    · next quick =>
        obtain ⟨processes, clock⟩ :
            state.advanceProcess? host turn = none ∧ state.advanceClock? host turn = none := by
          rw [if_pos awaited] at stopped
          split at stopped
          · exact Option.or_eq_none_iff.mp stopped
          · exact (Option.or_eq_none_iff.mp stopped).symm
        rintro ⟨after, actor, moved⟩
        rcases mem_of_move turn moved with first | ⟨index, member, rfl⟩ | rfl
        · cases (List.findSome?_eq_none_iff.mp quick actor first).symm.trans moved
        · have none := List.findSome?_eq_none_iff.mp processes index member
          rw [moved] at none
          cases none
        · rw [advanceClock?, moved] at clock
          cases clock

/-- If no order of moves goes on for ever, and somebody can move until something is handed back,
then this schedule comes to where something is handed back, if it is allowed enough moves. -/
theorem exists_bound_of_progress {host : Host} {start : State}
    (ends : ∀ states : Nat → State, states 0 = start → ∃ number, ¬Step host (states number) (states (number + 1)))
    (progress : ∀ moves state, Run host start moves state → state.conductor.outcome = none → ∃ after, Step host state after)
    (deadline : Nat) (turn : Turn) :
    ∃ least, ∀ bound, least ≤ bound → (start.run host deadline bound turn).conductor.outcome ≠ none := by
  have ended : Acc (fun after before => Step host before after) start := by
    rw [acc_iff_isEmpty_descending_chain]
    refine ⟨fun ⟨states, first, steps⟩ => ?_⟩
    obtain ⟨number, stays⟩ := ends states first
    exact stays (steps number)
  clear ends
  induction ended generalizing turn with
  | intro state _ ih =>
      cases advanced : state.advance? host deadline turn with
      | none =>
          have handedBack : state.conductor.outcome ≠ none := fun pending =>
            not_step_of_advance? pending advanced (progress [] state .idle pending)
          refine ⟨0, fun bound _ => ?_⟩
          cases bound with
          | zero => exact handedBack
          | succ bound =>
              rw [State.run, advanced]
              exact handedBack
      | some next =>
          obtain ⟨later, after⟩ := next
          obtain ⟨actor, moved⟩ := move_of_advance? advanced
          obtain ⟨least, reached⟩ := ih after ⟨actor, moved⟩
            (fun moves state run pending => progress _ state (run.cons moved) pending) later
          refine ⟨least + 1, fun bound enough => ?_⟩
          obtain ⟨bound, rfl⟩ := Nat.exists_eq_add_of_le' enough
          rw [← Nat.add_assoc, State.run, advanced]
          exact reached _ (Nat.le_add_left least bound)

end State

end PipeShell.Pipeline
