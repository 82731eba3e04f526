import Mathlib.Logic.Hydra
import PipeShell.Proofs.Pipeline.Computing

/-! # A row of stages comes to its end

Every move in a row leaves less to do, so no order of moves goes on for ever; and until
the thread hands something back somebody can move. Together: however the stages and the
drains take turns, the row comes to its end. -/

set_option autoImplicit false

namespace PipeShell.Pipeline

open PipeShell.System

/-! ## No order of moves goes on for ever -/

/-- What a process still does, as long as it runs. -/
def Process.left (process : Process) : Multiset Program :=
  if process.isRunning then {process.program} else 0

/-- A process that advances leaves smaller programs. -/
theorem Process.Advances.left {earlier later : Process} (advances : earlier.Advances later) :
    Relation.CutExpand Program.Next later.left earlier.left := by
  obtain ⟨running, next⟩ := advances
  rw [Process.left, Process.left, if_pos running]
  apply Relation.cutExpand_singleton
  intro program member
  split at member
  · next goesOn =>
      obtain rfl := Multiset.mem_singleton.mp member
      exact next goesOn
  · exact absurd member (Multiset.notMem_zero program)

namespace State

def programs (state : State) : Multiset Program := (state.processes.map Process.left).sum

def load (state : State) : Nat := (state.pipes.map Buffer.size).sum

def backlog (state : State) : Nat := (state.copiers.map Copier.work).sum

/-- There is less to do in a state than in another: for the thread, or else for the
processes, or else for the copiers. -/
def Below : State → State → Prop :=
  InvImage
    (Prod.Lex (· < ·) (Prod.Lex (· < ·) (Prod.Lex (Relation.CutExpand Program.Next) (Prod.Lex (· < ·) (· < ·)))))
    fun state => (state.conductor.agenda.countP Action.isStarting, state.conductor.agenda.length, state.programs,
      state.load, state.backlog)

private theorem wellFounded_below : WellFounded Below :=
  InvImage.wf _ (wellFounded_lt.prod_lex (wellFounded_lt.prod_lex
    (Program.wellFounded_next.cutExpand.prod_lex (wellFounded_lt.prod_lex wellFounded_lt))))

variable {before after : State}

private theorem Conducts.below (conducts : before.Conducts after) : after.Below before := by
  rcases conducts with starts | ⟨same, shorter⟩
  · exact Prod.Lex.left _ _ starts
  · simp only [Below, InvImage, Prod.lex_def]
    exact .inr ⟨same, .inl shorter⟩

private theorem Advances.below (advances : before.Advances after) : after.Below before := by
  obtain ⟨conductor, index, earlier, later, found, processes, advances⟩ := advances
  have programs : Relation.CutExpand Program.Next after.programs before.programs := by
    obtain ⟨bound, rfl⟩ := List.getElem?_eq_some_iff.mp found
    obtain ⟨front, back, split, _, replaced⟩ := @List.exists_of_set _ _ later _ bound
    rw [State.programs, State.programs, processes, replaced, split]
    simp only [List.map_append, List.map_cons, List.sum_append, List.sum_cons]
    rw [add_comm later.left, add_comm (before.processes[index]).left, ← add_assoc, ← add_assoc]
    exact (Relation.cutExpand_add_left _).mpr advances.left
  simp only [Below, InvImage, Prod.lex_def, conductor]
  exact .inr ⟨trivial, .inr ⟨trivial, .inl programs⟩⟩

/-- A smaller item makes a sum smaller. -/
theorem sum_set_lt {Item : Type} (size : Item → Nat) {items : List Item} {index : Nat} {earlier later : Item}
    (found : items[index]? = some earlier) (smaller : size later < size earlier) :
    ((items.set index later).map size).sum < (items.map size).sum := by
  obtain ⟨bound, rfl⟩ := List.getElem?_eq_some_iff.mp found
  obtain ⟨front, back, split, _, replaced⟩ := @List.exists_of_set _ _ later _ bound
  rw [replaced]
  conv_rhs => rw [split]
  simp only [List.map_append, List.map_cons, List.sum_append, List.sum_cons]
  omega

private theorem Drains.below (drains : before.Drains after) : after.Below before := by
  obtain ⟨conductor, processes, number, copier, changed, found, copiers, progress⟩ := drains
  have programs : after.programs = before.programs := by rw [State.programs, processes, State.programs]
  simp only [Below, InvImage, Prod.lex_def, conductor]
  refine .inr ⟨trivial, .inr ⟨trivial, .inr ⟨programs, ?_⟩⟩⟩
  rcases progress with ⟨pipes, less⟩ | ⟨pipe, content, rest, foundPipe, pipes, less⟩
  · have load : after.load = before.load := by rw [State.load, pipes, State.load]
    refine .inr ⟨load, ?_⟩
    rw [State.backlog, copiers]
    exact sum_set_lt Copier.work found less
  · left
    rw [State.load, pipes]
    exact sum_set_lt Buffer.size foundPipe less

end State

namespace Course

variable {host : Host} {plan : Plan} {stages : List Stage}

/-- Whatever the order of moves, it does not go on for ever. -/
theorem exists_end {start : State} (course : Course plan stages start) (proper : plan.Proper)
    (starts : plan.Starts host stages) (states : Nat → State) (first : states 0 = start) :
    ∃ number, ¬Step host (states number) (states (number + 1)) := by
  by_contra endless
  push Not at endless
  have courses (number : Nat) : Course plan stages (states number) := by
    induction number with
    | zero => exact first ▸ course
    | succ number ih =>
        obtain ⟨actor, moved⟩ := endless number
        exact (ih.move proper starts moved).1
  have : IsWellFounded State State.Below := ⟨State.wellFounded_below⟩
  obtain ⟨number, stays⟩ := @WellFounded.not_rel_apply_succ State State.Below this states
  apply stays
  obtain ⟨actor, moved⟩ := endless number
  rcases ((courses number).move proper starts moved).2 with conducts | advances | drains
  · exact conducts.below
  · exact advances.below
  · exact drains.below

end Course

/-! ## Somebody can move -/

namespace Flows

variable {host : Host} {plan : Plan} {ledger : Ledger} {count : Nat} {state : State} {index : Nat} {process : Process}

/-- A stage that cannot move waits for one of its neighbours or for a drain. -/
theorem blocked_cases (flows : Flows plan ledger count state) (found : state.processes[index]? = some process)
    (running : process.isRunning = true) (blocked : state.moveProcess host index process = none) :
    state.Thirsty process ∨ state.Choked host process := by
  have yields := (flows.works index process found).running (Option.isNone_iff_eq_none.mp running)
  unfold State.moveProcess at blocked
  generalize program : process.program = behaviour at yields
  generalize ledger.unread index = rest at yields
  generalize ledger.due index = product at yields
  cases yields with
  | exit =>
      simp only [program] at blocked
      cases blocked
  | read =>
      simp only [program] at blocked
      split at blocked
      · next stuck => exact .inl (State.thirsty_of_pull stuck)
      · cases blocked
  | write =>
      simp only [program] at blocked
      split at blocked
      · next stuck => exact .inr (State.choked_of_push stuck)
      · cases blocked
      · cases blocked
      · cases blocked
  | files =>
      simp only [program] at blocked
      cases blocked

theorem step_of_moveProcess (flows : Flows plan ledger count state) (found : state.processes[index]? = some process)
    (running : process.isRunning = true) {after : State} (moved : state.moveProcess host index process = some after) :
    Step host state after := by
  have awake : process.stopped = false := by
    obtain ⟨_, _, _, rfl⟩ := (flows.works index process found).shape
    rfl
  refine ⟨.process index, ?_⟩
  simp [State.move, flows.killed, State.turn, found, running, awake, moved]

theorem exists_step_copier (flows : Flows plan ledger count state) {copier : Copier} (member : copier ∈ state.copiers)
    (undone : copier.isDone = false)
    (ready : state.hasWriter copier.pipe = false ∨
      ∀ content, state.pipes[copier.pipe]? = some content → content.size ≠ 0) : ∃ after, Step host state after := by
  obtain ⟨number, found⟩ := List.mem_iff_getElem?.mp member
  obtain ⟨after, moved⟩ := State.exists_move_copier flows.killed found undone ready
  exact ⟨after, _, moved⟩

/-- The reader of a full pipe either moves or waits for a reader itself. -/
theorem exists_step_of_choked (flows : Flows plan ledger (plan.row.last + 1) state) (roomy : 1 ≤ host.capacity)
    (found : state.processes[index]? = some process) (choked : state.Choked host process) :
    ∃ after, Step host state after := by
  -- Readers are further right, so the induction is on how many stages are left there.
  generalize distance : plan.row.last + 1 - index = left
  induction left using Nat.strongRecOn generalizing index process with
  | ind left ih =>
      obtain ⟨pipe, content, writes, foundPipe, full, reader⟩ := choked
      have filled : ∀ other, state.pipes[pipe]? = some other → other.size ≠ 0 := by
        intro other same
        obtain rfl := Option.some.inj (foundPipe.symm.trans same)
        omega
      have held : state.conductor.held = none := by simp [flows.held, Row.held]
      simp only [State.hasReader, held, Bool.or_eq_true, List.any_eq_true, Bool.and_eq_true, Bool.not_eq_true',
        beq_iff_eq, reduceCtorEq, false_or] at reader
      rcases reader with ⟨other, member, reads⟩ | ⟨copier, member, rfl, undone⟩
      · obtain ⟨place, foundOther⟩ := List.mem_iff_getElem?.mp member
        obtain ⟨running, reads⟩ := Bool.and_eq_true_iff.mp reads
        have bound := flows.lt_of_found foundOther
        have further : index < place := by
          rw [(flows.works index process found).holdings_eq] at writes
          rw [(flows.works place other foundOther).holdings_eq, Row.reads_iff] at reads
          exact Row.lt_of_writes (by omega) writes reads
        cases moved : state.moveProcess host place other with
        | some after => exact ⟨after, flows.step_of_moveProcess foundOther running moved⟩
        | none =>
            rcases flows.blocked_cases foundOther running moved with thirsty | choked
            · obtain ⟨same, otherContent, leads, foundSame, empty, _⟩ := thirsty
              rw [(flows.works place other foundOther).holdings_eq, Row.port?_input] at leads
              rw [(flows.works place other foundOther).holdings_eq, Row.reads_iff, Option.some.inj leads] at reads
              cases reads
              exact absurd empty (filled otherContent foundSame)
            · exact ih (plan.row.last + 1 - place) (by omega) foundOther choked rfl
      · exact flows.exists_step_copier member undone (.inr filled)

/-- As long as a stage runs, somebody can move. -/
theorem exists_step_of_running (flows : Flows plan ledger (plan.row.last + 1) state) (roomy : 1 ≤ host.capacity)
    (found : state.processes[index]? = some process) (running : process.isRunning = true) :
    ∃ after, Step host state after := by
  -- Writers are further left, towards the first stage.
  induction index using Nat.strongRecOn generalizing process with
  | ind index ih =>
      cases moved : state.moveProcess host index process with
      | some after => exact ⟨after, flows.step_of_moveProcess found running moved⟩
      | none =>
          rcases flows.blocked_cases found running moved with thirsty | choked
          · obtain ⟨pipe, _, leads, _, _, writer⟩ := thirsty
            obtain ⟨other, member, writes⟩ := List.any_eq_true.mp writer
            obtain ⟨place, foundOther⟩ := List.mem_iff_getElem?.mp member
            obtain ⟨otherRunning, writes⟩ := Bool.and_eq_true_iff.mp writes
            have bound := flows.lt_of_found found
            have before : place < index := by
              rw [(flows.works place other foundOther).holdings_eq] at writes
              rw [(flows.works index process found).holdings_eq, Row.port?_input, Option.some.injEq] at leads
              exact Row.lt_of_writes (by omega) writes leads
            exact ih place before foundOther otherRunning
          · exact flows.exists_step_of_choked roomy found choked

end Flows

namespace Course

variable {host : Host} {plan : Plan} {stages : List Stage} {state : State}

/-- Until the thread hands something back somebody can move. -/
theorem progress (course : Course plan stages state) (starts : plan.Starts host stages) (roomy : 1 ≤ host.capacity)
    (pending : state.conductor.outcome = none) : ∃ after, Step host state after := by
  cases course with
  | @starting done rest ledger split flows agenda =>
      have moves : ∃ after, state.move host .conductor = some after := by
        cases rest with
        | nil => exact State.exists_move_of_isStarting agenda rfl flows.killed
        | cons stage rest =>
            rw [spawns_eq] at agenda
            exact State.exists_move_of_isStarting agenda rfl flows.killed
      obtain ⟨after, moved⟩ := moves
      exact ⟨after, _, moved⟩
  | @finishing executed ledger flows finishing =>
      have all : Flows plan ledger (plan.row.last + 1) state := starts.length ▸ flows
      by_cases busy : ∃ process ∈ state.processes, process.isRunning = true
      · obtain ⟨process, member, running⟩ := busy
        obtain ⟨index, found⟩ := List.mem_iff_getElem?.mp member
        exact all.exists_step_of_running roomy found running
      · have quiet (process : Process) (member : process ∈ state.processes) : process.isRunning = false :=
          Bool.eq_false_iff.mpr fun running => busy ⟨process, member, running⟩
        cases planned : state.conductor.agenda with
        | nil => cases (finishing.closed planned).symm.trans pending
        | cons action rest =>
            have step {after : State} (acted : (state.setAgenda rest).act host action = some after) :
                Step host state after := by
              refine ⟨.conductor, ?_⟩
              simp [State.move, flows.killed, State.turn, State.conduct, planned, acted]
            obtain ⟨_, ⟨child, among, rfl⟩ | ⟨number, bound, rfl⟩⟩ | ⟨_, rfl⟩ := finishing.next_cases planned
            · obtain ⟨index, inside, rfl⟩ := List.mem_mapIdx.mp among
              obtain ⟨process, found, _⟩ := flows.found_of_lt inside
              have ended : state.Ended index := ⟨process, found, quiet process (List.mem_of_getElem? found)⟩
              obtain ⟨status, asked⟩ := @State.Ended.statusOf state ⟨stages[index].program, index⟩ ended
              exact ⟨_, step (Option.map_eq_some_iff.mpr ⟨status, asked, rfl⟩)⟩
            · have found := List.getElem?_eq_getElem bound
              cases done : state.copiers[number].isDone with
              | true => exact ⟨_, step (show _ = some (state.setAgenda rest) by simp [State.act, State.setAgenda, found, done])⟩
              | false =>
                  -- No stage runs, so the drain finds the end of its stream.
                  have dry : state.hasWriter state.copiers[number].pipe = false := by
                    apply List.any_eq_false.mpr
                    intro process member
                    simp [Process.writes, quiet process member]
                  exact flows.exists_step_copier (List.getElem_mem bound) done (.inl dry)
            · exact ⟨_, step rfl⟩

end Course

/-! ## What is left at the end -/

/-- The row is over: every byte that its stages have written is where it belongs. -/
structure Finished (plan : Plan) (stages : List Stage) (state : State) : Prop where
  outcome : state.conductor.outcome = some (.ok (.foreground
    (stages.mapIdx fun index stage => ⟨stage.program, (plan.product index).status⟩)))
  files : state.files = plan.extended (plan.product plan.row.last).stream
  taken : ∃ marked : Sink → List (Nat × UInt8), (∀ sink, state.taken sink = (marked sink).map Prod.snd) ∧
    (∀ sink, ∀ entry ∈ marked sink, (entry.1, sink) ∈ plan.row.drained stages.length) ∧
    ∀ index sink, (index, sink) ∈ plan.row.drained stages.length →
      itemsOf index (marked sink) = Drain.image ((plan.product index).stream sink)

theorem Copier.Collects.whole {copier : Copier} {written coming whole : Bytes}
    (collects : copier.Collects written coming whole) (done : copier.isDone = true) : written = Drain.image whole := by
  obtain ⟨ended, nothing⟩ : copier.drain = none ∧ copier.pending = [] := by simpa [Copier.isDone] using done
  rw [← collects.image]
  simp [Copier.owes, ended, nothing]

namespace Course

variable {plan : Plan} {stages : List Stage} {state : State}

/-- When the thread hands something back the row is over. -/
theorem finished (course : Course plan stages state) (proper : plan.Proper) (length : stages.length = plan.row.last + 1)
    (handedBack : state.conductor.outcome ≠ none) : Finished plan stages state := by
  cases course with
  | starting _ _ _ _ _ _ pending => exact absurd pending handedBack
  | @finishing executed ledger flows finishing =>
      have nothing : state.conductor.agenda = [] := by
        by_contra more
        exact handedBack (finishing.pending more)
      have all : executed = closing stages state.copiers.length := by
        rw [← finishing.actions, nothing, List.append_nil]
      have dry (index : Nat) (bound : index < stages.length) (sink : Sink) : (ledger.due index).stream sink = [] := by
        obtain ⟨process, found, ended⟩ := finishing.ended _ (all ▸ wait_mem_closing bound _)
        cases status : process.status with
        | none => simp [Process.isRunning, status] at ended
        | some status' => exact ((flows.works index process found).ended status' status).2.2 sink
      have joined (number : Nat) (copier : Copier) (found : state.copiers[number]? = some copier) :
          copier.isDone = true := by
        have bound := (List.getElem?_eq_some_iff.mp found).1
        obtain ⟨_, same, done⟩ := finishing.joined number (all ▸ join_mem_closing stages bound)
        exact Option.some.inj (found.symm.trans same) ▸ done
      constructor
      case outcome => rw [finishing.closed nothing, finishing.statuses, all, Plan.recorded_closing]
      case files =>
        have sent (sink : Sink) (files : FileSystem) : files.extendTo (plan.number sink) (ledger.sent sink) =
            files.extendTo (plan.number sink) ((plan.product plan.row.last).stream sink) := by
          cases target : plan.row.target sink with
          | none =>
              rw [proper.captured sink target]
              rfl
          | some slot =>
              obtain ⟨_, _, _, _, _, whole⟩ := flows.target sink slot target
              rw [dry plan.row.last (by omega) sink, List.append_nil] at whole
              rw [whole]
        rw [flows.files, Plan.extended, Plan.extended, sent, sent]
      case taken =>
        refine ⟨ledger.marked, flows.taken, flows.marks, ?_⟩
        intro index sink member
        obtain ⟨number, copier, found, _, collects⟩ := flows.exists_copier member
        exact collects.whole (joined number copier found)

end Course

end PipeShell.Pipeline
