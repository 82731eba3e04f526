import PipeShell.Proofs.Pipeline.Flowing

/-! # What is written to a pipe

In every move a pipe keeps what is in it, gets something at its end, or loses something
at its front. What it gets is what some process writes there, and it is lost only to
somebody who reads the pipe. -/

set_option autoImplicit false

namespace PipeShell.Pipeline

open PipeShell.System

/-! ## What is poured -/

/-- How much of what is written to a pipe gets there. -/
def State.accepted (host : Host) (state : State) (pipe : Nat) (data : Bytes) : Bytes :=
  match state.push host (some (.writer pipe)) data with
  | some (_, .all) => data
  | some (_, .part rest) => data.take (data.length - rest.length)
  | _ => []

/-- Where a process is about to write, and what. -/
def Process.offer? (process : Process) : Option (Port × Bytes) :=
  match process.program with
  | .write descriptor data _ => (process.holdings.port? descriptor).map fun port => (port, data)
  | _ => none

/-- What a process writes to a pipe in its next move. -/
def State.pours (host : Host) (state : State) (process : Process) (pipe : Nat) : Bytes :=
  match process.offer? with
  | some (.writer target, data) => if target = pipe then state.accepted host pipe data else []
  | _ => []

def Move.poured (host : Host) (move : Move) (pipe : Nat) : Bytes :=
  match move.actor with
  | .process index => (move.before.processes[index]?).elim [] fun process => move.before.pours host process pipe
  | _ => []

/-- All bytes that are written to a pipe in the course of some moves, in order. -/
def pouredInto (host : Host) (moves : List Move) (pipe : Nat) : Bytes := moves.flatMap fun move => move.poured host pipe

theorem pouredInto_concat (host : Host) (moves : List Move) (move : Move) (pipe : Nat) :
    pouredInto host (moves ++ [move]) pipe = pouredInto host moves pipe ++ move.poured host pipe := by
  simp [pouredInto]

namespace State

variable {host : Host} {state before after : State} {index : Nat} {process : Process}

/-! ## Moves that touch no pipe -/

theorem content_of_pipes (same : after.pipes = before.pipes) (pipe : Nat) : after.content pipe = before.content pipe := by
  rw [content, content, same]

theorem pipes_strike (signal : Nat) : (state.strike index process signal).pipes = state.pipes := by
  unfold State.strike
  dsimp only
  split
  · rfl
  · rfl
  · split
    · rfl
    · split <;> rfl

private theorem pipes_deliver (target signal : Nat) : (state.deliver host target signal).1.pipes = state.pipes := by
  unfold State.deliver
  split
  · rfl
  · split
    · dsimp only
      split <;> rfl
    · split
      · rfl
      · dsimp only
        split
        · exact pipes_strike signal
        · rfl

private theorem pipes_await {mode : WaitMode} {answer : WaitAnswer}
    (awaited : state.await host index process mode = some (after, answer)) : after.pipes = state.pipes := by
  unfold State.await at awaited
  dsimp only at awaited
  split at awaited
  · cases awaited
    rfl
  · split at awaited
    · cases awaited
      rfl
    · split at awaited
      · cases awaited
        rfl
      · cases awaited

/-! ## Reading and writing -/

theorem content_setPipe_of_ne {pipe other : Nat} (different : pipe ≠ other) (changed : Buffer) :
    (state.setPipe pipe changed).content other = state.content other := by
  rw [content, State.setPipe, List.getElem?_set_ne different]
  rfl

private theorem content_pull {port : Option Port} {limit : Nat} {answer : Except Errno Bytes}
    (pulled : state.pull port limit = some (after, answer)) (pipe : Nat) :
    after.content pipe = state.content pipe ∨
      port = some (.reader pipe) ∧ ∃ data, state.content pipe = data ++ after.content pipe := by
  by_cases reads : port = some (.reader pipe)
  · subst reads
    cases found : state.pipes[pipe]? with
    | none =>
        simp only [pull, found] at pulled
        cases pulled
        exact .inl rfl
    | some content =>
        rcases pull_reader_cases found pulled with ⟨_, _, rfl, _⟩ | ⟨_, rfl, _⟩
        · exact .inl rfl
        · refine .inr ⟨rfl, (content.pull limit).1, ?_⟩
          rw [content_setPipe found, if_pos rfl, content_of_some found, content.pull_append]
  · rcases Undisturbed.pull_cases pulled with rfl | ⟨_, _, _, _, _, rfl⟩ | ⟨number, changed, leads, rfl⟩
    · exact .inl rfl
    · exact .inl rfl
    · exact .inl (content_setPipe_of_ne (fun same => reads (leads.trans (congrArg _ (congrArg _ same)))) changed)

private theorem content_push {port : Option Port} {data : Bytes} {written : Written}
    (pushed : state.push host port data = some (after, written)) (pipe : Nat) :
    after.content pipe = state.content pipe ++
      if port = some (.writer pipe) then state.accepted host pipe data else [] := by
  split
  · next writes =>
      subst writes
      rw [accepted, pushed]
      cases found : state.pipes[pipe]? with
      | none =>
          simp only [push, found] at pushed
          cases pushed
          exact (List.append_nil _).symm
      | some content =>
          by_cases read : data ≠ [] → state.hasReader pipe = true
          · have pushedTo (front : Bytes) : (state.setPipe pipe (content.push front)).content pipe =
                state.content pipe ++ front := by
              rw [content_setPipe found, if_pos rfl, Buffer.toList_push, content_of_some found]
            rcases push_writer_cases found read pushed with ⟨rfl, rfl, rfl⟩ | ⟨front, back, rfl, rfl, rest⟩
            · exact (List.append_nil _).symm
            · rcases rest with ⟨rfl, rfl⟩ | ⟨_, rfl⟩
              · rw [pushedTo, List.append_nil]
              · rw [pushedTo]
                dsimp only
                rw [List.length_append, Nat.add_sub_cancel, List.take_left]
          · obtain ⟨some, unread⟩ := Classical.not_imp.mp read
            simp only [push, found, List.isEmpty_iff, some, if_false, eq_false_of_ne_true unread, Bool.not_false,
              if_true] at pushed
            cases pushed
            exact (List.append_nil _).symm
  · next elsewhere =>
      rw [List.append_nil]
      rcases Undisturbed.push_cases pushed with rfl | ⟨_, _, _, _, _, _, rfl⟩ | ⟨number, changed, leads, rfl⟩
      · rfl
      · rfl
      · exact content_setPipe_of_ne (fun same => elsewhere (leads.trans (congrArg _ (congrArg _ same)))) changed

private theorem content_launch (state : State) (stage : Stage) (program : Program) (first last : Bool) (pipe : Nat) :
    (state.launch stage program first last).content pipe = state.content pipe := by
  have outlet (pipes : List Buffer) (target : Option Port) :
      ∃ count, (stageOutlet pipes last target).2 = pipes ++ List.replicate count .empty := by
    unfold stageOutlet
    split
    · exact ⟨0, (List.append_nil _).symm⟩
    · exact ⟨1, rfl⟩
  obtain ⟨one, output⟩ := outlet state.pipes state.output
  obtain ⟨another, error⟩ := outlet (stageOutlet state.pipes last state.output).2 state.error
  have pipes : (state.launch stage program first last).pipes = state.pipes ++ List.replicate (one + another) .empty := by
    rw [List.replicate_add, ← List.append_assoc, ← output, ← error]
    rfl
  rw [content, pipes, content_append]

/-! ## Whole moves -/

theorem pours_of_write {descriptor : Nat} {data : Bytes} {next : Option Errno → Program}
    (behaviour : process.program = .write descriptor data next) (pipe : Nat) :
    state.pours host process pipe =
      if process.holdings.port? descriptor = some (.writer pipe) then state.accepted host pipe data else [] := by
  cases leads : process.holdings.port? descriptor with
  | none => simp [pours, Process.offer?, behaviour, leads]
  | some port => cases port <;> simp [pours, Process.offer?, behaviour, leads]

private theorem pours_of_not_leads {pipe : Nat} (closed : process.holdings.leads (.writer pipe) = false) :
    state.pours host process pipe = [] := by
  cases behaviour : process.program with
  | write descriptor data next =>
      rw [pours_of_write behaviour, if_neg]
      intro leads
      cases closed.symm.trans (writes_of_port leads)
  | _ => rw [pours, Process.offer?, behaviour]

/-- A process that moves writes to a pipe, or reads it, or leaves it as it is. -/
theorem content_moveProcess (moved : state.moveProcess host index process = some after) (pipe : Nat) :
    after.content pipe = state.content pipe ++ state.pours host process pipe ∨
      process.holdings.leads (.reader pipe) = true ∧ state.pours host process pipe = [] ∧
        ∃ data, state.content pipe = data ++ after.content pipe := by
  -- Only a write pours anything, so all other cases are about what becomes of the pipes.
  have quiet (nothing : process.offer? = none) (content : after.content pipe = state.content pipe) :
      after.content pipe = state.content pipe ++ state.pours host process pipe := by
    rw [content, pours, nothing, List.append_nil]
  cases behaves_of_moveProcess moved with
  | exit behaviour => exact .inl (quiet (by rw [Process.offer?, behaviour]) rfl)
  | read behaviour pulled =>
      have nothing : process.offer? = none := by rw [Process.offer?, behaviour]
      rcases content_pull pulled pipe with same | ⟨reads, data, split⟩
      · exact .inl (quiet nothing same)
      · exact .inr ⟨reads_of_port reads, by rw [pours, nothing], data, split⟩
  | wrote behaviour pushed =>
      exact .inl ((content_push pushed pipe).trans (congrArg _ (pours_of_write behaviour pipe).symm))
  | wrotePart behaviour pushed =>
      exact .inl ((content_push pushed pipe).trans (congrArg _ (pours_of_write behaviour pipe).symm))
  | refused behaviour pushed =>
      rw [pours_of_write behaviour pipe, ← content_push pushed pipe]
      refine .inl (content_of_pipes ?_ pipe)
      dsimp only [goOnRunning]
      split
      · exact pipes_strike brokenPipeSignal
      · rfl
  | files behaviour => exact .inl (quiet (by rw [Process.offer?, behaviour]) rfl)
  | adjust behaviour => exact .inl (quiet (by rw [Process.offer?, behaviour]) rfl)
  | attach behaviour =>
      refine .inl (quiet (by rw [Process.offer?, behaviour]) ?_)
      exact content_of_pipes (Stirs.addOpened state _).2.2 pipe
  | pipe behaviour =>
      exact .inl (quiet (by rw [Process.offer?, behaviour]) (content_append state 1 pipe))
  | inspect behaviour => exact .inl (quiet (by rw [Process.offer?, behaviour]) rfl)
  | sought behaviour => exact .inl (quiet (by rw [Process.offer?, behaviour]) rfl)
  | unsought behaviour => exact .inl (quiet (by rw [Process.offer?, behaviour]) rfl)
  | fork behaviour _ same => exact .inl (quiet (by rw [Process.offer?, behaviour]) (same ▸ rfl))
  | wait behaviour awaited =>
      exact .inl (quiet (by rw [Process.offer?, behaviour]) (content_of_pipes (pipes_await awaited) pipe))
  | signal behaviour =>
      exact .inl (quiet (by rw [Process.offer?, behaviour]) (content_of_pipes (pipes_deliver _ _) pipe))
  | noted behaviour => exact .inl (quiet (by rw [Process.offer?, behaviour]) rfl)
  | asleep behaviour => exact .inl (quiet (by rw [Process.offer?, behaviour]) rfl)
  | awake behaviour => exact .inl (quiet (by rw [Process.offer?, behaviour]) rfl)

private theorem content_act {action : Action} (acted : state.act host action = some after) (pipe : Nat) :
    after.content pipe = state.content pipe := by
  cases acts_of_act acted with
  | later starting =>
      obtain ⟨_, _, _, rfl, _, _⟩ := act_eq starting acted
      rfl
  | @started stage program first last _ _ launched => exact launched ▸ content_launch _ stage program first last pipe
  | failed _ _ aborted => exact aborted ▸ rfl
  | settled waits =>
      rw [waits]
      unfold State.settle
      split <;> rfl

/-- Whoever moves, copiers aside, adds to a pipe what he writes to it, or reads it. -/
theorem content_of_move {actor : Actor} (others : ∀ number, actor ≠ .copier number)
    (moved : state.move host actor = some after) (pipe : Nat) :
    after.content pipe = state.content pipe ++ Move.poured host ⟨state, actor, after⟩ pipe ∨
      ∃ process ∈ state.processes, process.holds (.reader pipe) = true := by
  unfold State.move at moved
  split at moved
  · cases moved
  · cases actor with
    | conductor =>
        obtain ⟨_, _, _, acted⟩ := act_of_conduct moved
        exact .inl ((content_act acted pipe).trans (List.append_nil _).symm)
    | reaper number =>
        simp only [State.turn, State.reap] at moved
        split at moved
        · cases moved
        · obtain ⟨_, conducted, rfl⟩ := Option.map_eq_some_iff.mp moved
          obtain ⟨_, _, _, acted⟩ := act_of_conduct conducted
          exact .inl ((content_act acted pipe).trans (List.append_nil _).symm)
    | process index =>
        simp only [State.turn] at moved
        split at moved
        · next process found =>
            split at moved
            · next active =>
                rcases content_moveProcess moved pipe with added | ⟨reads, _⟩
                · refine .inl (added.trans (congrArg _ ?_))
                  simp [Move.poured, found]
                · have running := (Bool.and_eq_true_iff.mp active).1
                  exact .inr ⟨process, List.mem_of_getElem? found, Bool.and_eq_true_iff.mpr ⟨running, reads⟩⟩
            · cases moved
        · cases moved
    | copier number => exact absurd rfl (others number)
    | clock =>
        obtain ⟨moment, _, rfl⟩ := Option.map_eq_some_iff.mp moved
        exact .inl (List.append_nil _).symm

theorem poured_of_closed {actor : Actor} (moved : state.move host actor = some after) {pipe : Nat}
    (closed : state.hasWriter pipe = false) : Move.poured host ⟨state, actor, after⟩ pipe = [] := by
  cases actor with
  | process index =>
      unfold State.move at moved
      split at moved
      · cases moved
      · simp only [State.turn] at moved
        split at moved
        · next process found =>
            split at moved
            · next active =>
                simp only [Move.poured, found, Option.elim_some]
                refine pours_of_not_leads (eq_false_of_ne_true fun leads => ?_)
                have writes := Bool.and_eq_true_iff.mpr ⟨(Bool.and_eq_true_iff.mp active).1, leads⟩
                cases closed.symm.trans (List.any_eq_true.mpr ⟨process, List.mem_of_getElem? found, writes⟩)
            · cases moved
        · cases moved
  | conductor | reaper | copier | clock => rfl

/-! ## Copiers -/

/-- A copier delivers to its sink and leaves the pipes alone, or it reads: it gets something
from the front of its pipe, or nobody can write the pipe and nothing is left in it. -/
theorem moveCopier_cases {number : Nat} {copier : Copier} (made : copier.pipe < state.pipes.length)
    (moved : state.moveCopier host number copier = some after) :
    (∃ piece pending, copier.pending = piece :: pending ∧ after.pipes = state.pipes ∧
      after.copiers = state.copiers.set number { copier with pending } ∧
      ∀ sink, after.taken sink = state.taken sink ++ if copier.sink = some sink then piece else []) ∨
    ∃ drain data, copier.pending = [] ∧ copier.drain = some drain ∧
      after.copiers = state.copiers.set number { copier with
        pending := (drain.receive data).1.flatMap host.deliveries, drain := (drain.receive data).2 } ∧
      (∀ sink, after.taken sink = state.taken sink) ∧
      (∀ pipe, pipe ≠ copier.pipe → after.content pipe = state.content pipe) ∧
      state.content copier.pipe = data ++ after.content copier.pipe ∧
      (data = [] → state.content copier.pipe = [] ∧ state.hasWriter copier.pipe = false) := by
  obtain ⟨_, ⟨piece, pending, planned, copiers, taken⟩ | ⟨_, _, planned, _, _, taken⟩⟩ := copier_cases moved
  · refine .inl ⟨piece, pending, planned, ?_, copiers, taken⟩
    simp only [moveCopier, planned] at moved
    split at moved <;> cases moved <;> rfl
  · refine .inr ?_
    have found := List.getElem?_eq_getElem made
    simp only [moveCopier, planned] at moved
    split at moved
    · cases moved
    · next drain going =>
        split at moved
        · cases moved
        · next between answer pulled =>
            rcases pull_reader_cases found pulled with ⟨empty, closed, rfl, rfl⟩ | ⟨some, rfl, rfl⟩
            · cases moved
              have nothing := (content_of_some found).trans empty
              exact ⟨drain, [], planned, going, rfl, taken, fun _ _ => rfl, rfl, fun _ => ⟨nothing, closed⟩⟩
            · cases moved
              refine ⟨drain, (state.pipes[copier.pipe].pull readLimit).1, planned, going, rfl, taken, ?_, ?_, ?_⟩
              · intro pipe different
                exact content_setPipe_of_ne different.symm _
              · have whole := (content_of_some found).trans (state.pipes[copier.pipe].pull_append readLimit).symm
                have rest := content_setPipe found (state.pipes[copier.pipe].pull readLimit).2 copier.pipe
                exact whole.trans (congrArg (_ ++ ·) (rest.trans (if_pos rfl)).symm)
              · intro nothing
                rcases List.take_eq_nil_iff.mp nothing with zero | empty
                · cases zero
                · exact absurd empty some

end State

end PipeShell.Pipeline
