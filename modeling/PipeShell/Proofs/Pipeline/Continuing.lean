import PipeShell.Proofs.Pipeline.Attending
import PipeShell.Proofs.Pipeline.Cleanup
import PipeShell.Proofs.Pipeline.Execution

/-! # Lines that go on

A line in the background goes on after it was handed back. Other lines are begun, which
makes its thread one of the others, and whoever carried the lines out may stop looking at
what they write. Whatever happens, the thread sees to all of its children and drains. -/

set_option autoImplicit false

namespace PipeShell.Pipeline

open PipeShell.System

namespace State

/-- An actor is the thread that sees to the stages of a line, and no other thread waits for
any of them. -/
structure Keeps (duty : Duty) (executed : List Action) (keeper : Actor) (state : State) : Prop where
  thread : ∃ thread, state.thread? keeper = some thread ∧ state.Attends duty executed thread
  others : ∀ other thread, other ≠ keeper → state.thread? other = some thread →
    thread.Minds fun index => ∀ child ∈ duty.children, child.process ≠ index

/-- The thread that was in front becomes the last of the others when a line is begun. -/
def retired (state : State) : Actor → Actor
  | .conductor => .reaper state.reapers.length
  | other => other

/-- What can happen while an actor sees to the stages of a line: everybody moves, in
whatever directory the shell is by now, other lines are begun, files change and sinks are
emptied between lines, and in the end nobody looks at the sinks any more. -/
inductive Continues (keeper : Actor) (start : State) : Actor → State → Prop where
  | refl : Continues keeper start keeper start
  | move {host : Host} {later actor : Actor} {state after : State} : Continues keeper start later state →
      state.move host actor = some after → Continues keeper start later after
  | line {later : Actor} {state : State} (files : FileSystem) (redirects : Redirects) (line : Line) :
      Continues keeper start later state →
      Continues keeper start (state.retired later) (state.prepared files redirects line)
  | aside {later : Actor} {state : State} (files : FileSystem) (opened : List OpenFile) (captured complaints : Buffer)
      (log : List LogRecord) : Continues keeper start later state →
      Continues keeper start later { state with files, opened, captured, complaints, log }
  | detached {later : Actor} {state : State} (input : OpenFile) : Continues keeper start later state →
      Continues keeper start later (state.detached input)

theorem Run.continues {host : Host} {keeper : Actor} {start state : State} {moves : List Move}
    (run : Run host start moves state) : Continues keeper start keeper state := by
  induction run with
  | idle => exact .refl
  | move _ moved ih => exact .move ih moved

/-- When a line is begun, all threads are still there, and a new one is in front that waits
for nobody. -/
theorem threads_prepared (before : State) (files : FileSystem) (redirects : Redirects) (line : Line) :
    (∀ actor thread, before.thread? actor = some thread →
      (before.prepared files redirects line).thread? (before.retired actor) = some thread) ∧
    ∀ actor thread, (before.prepared files redirects line).thread? actor = some thread →
      (∀ allowed, thread.Minds allowed) ∨
        ∃ earlier, before.retired earlier = actor ∧ before.thread? earlier = some thread := by
  constructor
  · intro actor thread found
    cases actor with
    | conductor =>
        obtain rfl := Option.some.inj found
        rw [retired, thread?, reapers_prepared, List.getElem?_append_right (Nat.le_refl _), Nat.sub_self]
        rfl
    | reaper number =>
        change (before.prepared files redirects line).reapers[number]? = some thread
        rw [reapers_prepared]
        exact (List.getElem?_append_left (List.getElem?_eq_some_iff.mp found).1).trans found
    | process | copier | clock => cases found
  · intro actor thread found
    cases actor with
    | conductor =>
        refine .inl fun allowed => ?_
        rw [thread?, conductor_prepared, Option.some.injEq] at found
        subst found
        refine ⟨fun action member index waits => ?_, fun _ member => nomatch member⟩
        cases action with
        | reap | wait => cases isStarting_of_spawns member
        | spawn | settle | kill | join | report | finish | fail => cases waits
    | reaper number =>
        rw [thread?, reapers_prepared] at found
        rcases Nat.lt_or_ge number before.reapers.length with old | new
        · exact .inr ⟨.reaper number, rfl, (List.getElem?_append_left old).symm.trans found⟩
        · rw [List.getElem?_append_right new] at found
          obtain ⟨here, rfl⟩ : number = before.reapers.length ∧ before.conductor = thread := by
            have bound := (List.getElem?_eq_some_iff.mp found).1
            have here : number = before.reapers.length := by
              rw [List.length_singleton] at bound
              omega
            subst here
            rw [Nat.sub_self] at found
            exact ⟨rfl, Option.some.inj found⟩
          exact .inr ⟨.conductor, congrArg Actor.reaper here.symm, rfl⟩
    | process | copier | clock => cases found

theorem Mindful.prepared {before : State} (mindful : before.Mindful) (files : FileSystem) (redirects : Redirects)
    (line : Line) : (before.prepared files redirects line).Mindful := by
  intro actor thread found
  rw [processes_prepared]
  rcases (threads_prepared before files redirects line).2 actor thread found with new | ⟨earlier, _, foundEarlier⟩
  · exact new _
  · exact mindful earlier thread foundEarlier

private theorem exists_move_of_thread {host : Host} {state : State} {actor : Actor} {thread : Conductor}
    {action : Action} {rest : List Action} (found : state.thread? actor = some thread)
    (planned : thread.agenda = action :: rest) (alive : state.killed = none)
    (acts : ∃ acted, { state with conductor := { thread with agenda := rest } }.act host action = some acted) :
    ∃ after, state.move host actor = some after := by
  obtain ⟨acted, did⟩ := acts
  have conducts : { state with conductor := thread }.conduct host = some acted := by
    rw [conduct, planned]
    exact did
  have moves : state.move host actor = state.turn host actor := by simp [State.move, alive]
  rw [moves]
  cases actor with
  | conductor =>
      obtain rfl := Option.some.inj found
      exact ⟨acted, conducts⟩
  | reaper number =>
      have foundReaper : state.reapers[number]? = some thread := found
      rw [turn, reap, foundReaper]
      exact ⟨_, Option.map_eq_some_iff.mpr ⟨acted, conducts, rfl⟩⟩
  | process | copier | clock => cases found

namespace Keeps

variable {host : Host} {duty : Duty} {executed : List Action} {keeper : Actor} {before after state : State}

/-- Whoever moves, the thread goes through what it has to do. -/
theorem move {actor : Actor} (keeps : before.Keeps duty executed keeper) (moved : before.move host actor = some after) :
    ∃ executed, after.Keeps duty executed keeper := by
  obtain ⟨thread, found, attends⟩ := keeps.thread
  have fresh (_ : actor ≠ keeper) (_ : ∃ thread, before.thread? actor = some thread)
      (_ : before.processes.length < after.processes.length) (child : Child) (member : child ∈ duty.children) :
      child.process ≠ before.processes.length := by
    obtain ⟨process, foundProcess, _⟩ := attends.child child member
    exact Nat.ne_of_lt (List.getElem?_eq_some_iff.mp foundProcess).1
  have others := minds_of_move keeps.others fresh moved
  -- Either the thread does what is next, or somebody moves who leaves its children alone.
  by_cases own : actor = keeper ∧ ∃ action acted, Performs host before actor action acted after
  · obtain ⟨rfl, action, acted, performs⟩ := own
    exact ⟨_, ⟨_, performs.self, attends.perform found performs⟩, others⟩
  · refine ⟨executed, ⟨thread, ?_, ?_⟩, others⟩
    · rcases move_cases moved with ⟨action, acted, performs⟩ | ⟨_, same, _, _⟩
      · have different : keeper ≠ actor := fun same => own ⟨same.symm, action, acted, performs⟩
        exact (performs.others keeper different).trans found
      · exact (same keeper).trans found
    · refine attends.keep (fun _ _ => process_of_move moved) (fun child member => ?_) (length_copiers_of_move moved) ?_
      · rcases move_cases moved with ⟨action, acted, performs⟩ | ⟨_, _, spares, _⟩
        · have different : actor ≠ keeper := fun same => own ⟨same, action, acted, performs⟩
          refine spares_of_move different (fun another other elsewhere foundOther => ?_) moved
          exact (keeps.others another other elsewhere foundOther).mono fun _ apart => (apart child member).symm
        · exact spares _
      · rintro number ⟨copier, foundCopier, done⟩
        exact ⟨copier, copier_of_move moved foundCopier done, done⟩

/-- What touches neither the threads nor the children leaves the thread with the same things
to do. -/
theorem same (keeps : before.Keeps duty executed keeper) (threads : ∀ other, after.thread? other = before.thread? other)
    (processes : after.processes = before.processes) (copiers : after.copiers = before.copiers) :
    after.Keeps duty executed keeper where
  thread := by
    obtain ⟨thread, found, attends⟩ := keeps.thread
    refine ⟨thread, (threads keeper).trans found, ?_⟩
    refine attends.keep ?_ (fun _ _ => spares_of_same processes) (Nat.le_of_eq (congrArg List.length copiers).symm) ?_
    · exact fun _ earlier foundEarlier => ⟨earlier, processes ▸ foundEarlier, .refl earlier⟩
    · rintro number ⟨copier, foundCopier, done⟩
      exact ⟨copier, copiers ▸ foundCopier, done⟩
  others := fun other thread different found => keeps.others other thread different (threads other ▸ found)

private theorem prepared (keeps : before.Keeps duty executed keeper) (files : FileSystem) (redirects : Redirects)
    (line : Line) :
    (before.prepared files redirects line).Keeps duty executed (before.retired keeper) where
  thread := by
    obtain ⟨thread, found, attends⟩ := keeps.thread
    refine ⟨thread, (threads_prepared before files redirects line).1 keeper thread found, ?_⟩
    have processes := processes_prepared before files redirects line
    have copiers := copiers_prepared before files redirects line
    refine attends.keep ?_ (fun _ _ => spares_of_same processes) (Nat.le_of_eq (congrArg List.length copiers).symm) ?_
    · exact fun _ earlier foundEarlier => ⟨earlier, processes ▸ foundEarlier, .refl earlier⟩
    · rintro number ⟨copier, foundCopier, done⟩
      exact ⟨copier, copiers ▸ foundCopier, done⟩
  others := by
    intro other thread different found
    rcases (threads_prepared before files redirects line).2 other thread found with new | ⟨earlier, rfl, foundEarlier⟩
    · exact new _
    · exact keeps.others earlier thread (fun same => different (congrArg before.retired same)) foundEarlier

private theorem detached (keeps : before.Keeps duty executed keeper) (input : OpenFile) :
    (before.detached input).Keeps duty executed keeper where
  thread := by
    obtain ⟨thread, found, attends⟩ := keeps.thread
    refine ⟨thread, (thread?_of_same rfl rfl keeper).trans found, ?_⟩
    have process (index : Nat) (earlier : Process) (foundEarlier : before.processes[index]? = some earlier) :
        ∃ holdings, (before.detached input).processes[index]? = some { earlier with holdings } :=
      ⟨_, (List.getElem?_map ..).trans (congrArg _ foundEarlier)⟩
    refine attends.keep ?_ ?_ (Nat.le_of_eq (List.length_map _).symm) ?_
    · intro index earlier foundEarlier
      obtain ⟨holdings, foundLater⟩ := process index earlier foundEarlier
      exact ⟨_, foundLater, fun _ => id, Nat.le_refl _⟩
    · intro child _ earlier foundEarlier own
      obtain ⟨holdings, foundLater⟩ := process child.process earlier foundEarlier
      exact ⟨_, foundLater, own, rfl⟩
    · rintro number ⟨copier, foundCopier, done⟩
      exact ⟨_, (List.getElem?_map ..).trans (congrArg _ foundCopier), done⟩
  others := fun other thread different found =>
    keeps.others other thread different ((thread?_of_same rfl rfl other).symm.trans found)

/-- However a line goes on, its thread goes through what it has to do. -/
theorem continues {start : State} {later : Actor} (keeps : start.Keeps duty executed keeper)
    (continues : Continues keeper start later state) : ∃ executed, state.Keeps duty executed later := by
  induction continues with
  | refl => exact ⟨executed, keeps⟩
  | move _ moved ih =>
      obtain ⟨_, keeps⟩ := ih
      exact keeps.move moved
  | line files redirects line _ ih =>
      obtain ⟨executed, keeps⟩ := ih
      exact ⟨executed, keeps.prepared files redirects line⟩
  | aside files opened captured complaints log _ ih =>
      obtain ⟨executed, keeps⟩ := ih
      exact ⟨executed, keeps.same (thread?_of_same rfl rfl) rfl rfl⟩
  | detached input _ ih =>
      obtain ⟨executed, keeps⟩ := ih
      exact ⟨executed, keeps.detached input⟩

/-! ## The end -/

/-- The thread waits for nothing but its children and copiers. -/
theorem progress (keeps : state.Keeps duty executed keeper) {thread : Conductor}
    (found : state.thread? keeper = some thread) (more : thread.agenda ≠ []) (alive : state.killed = none)
    (ended : ∀ child ∈ duty.children, state.Ended child.process)
    (joined : ∀ number, duty.first ≤ number → number < duty.first + duty.count → state.Joined number) :
    ∃ after, state.move host keeper = some after := by
  obtain ⟨same, foundSame, attends⟩ := keeps.thread
  obtain rfl := Option.some.inj (found.symm.trans foundSame)
  obtain ⟨action, rest, planned⟩ := List.exists_cons_of_ne_nil more
  have split := attends.plan
  rw [planned] at split
  refine exists_move_of_thread found planned alive ?_
  rcases Duty.next_cases split with ⟨_, ⟨child, among, rfl⟩ | ⟨number, low, high, rfl⟩ | rfl⟩ | ⟨_, _, rfl⟩
  · obtain ⟨process, foundProcess, halted⟩ := ended child among
    cases status : process.status with
    | none => simp [Process.isRunning, status] at halted
    | some code => simp [State.act, State.statusOf, foundProcess, status]
  · obtain ⟨copier, foundCopier, done⟩ := joined number low high
    simp [State.act, foundCopier, done]
  · exact ⟨_, rfl⟩
  · exact ⟨_, rfl⟩

/-- When there is nothing left to do, every child has ended and was waited for once, every
copier is done, and the statuses tell how the children ended. -/
theorem finished (keeps : state.Keeps duty executed keeper) {thread : Conductor}
    (found : state.thread? keeper = some thread) (nothing : thread.agenda = []) :
    (∀ child ∈ duty.children, ∃ process status, state.processes[child.process]? = some process ∧
      process.status = some status ∧ process.waits = 1) ∧
    (∀ number, duty.first ≤ number → number < duty.first + duty.count → state.Joined number) ∧
    thread.statuses.map some = duty.children.map state.recordOf ∧
    thread.outcome = duty.outcome [] thread.statuses := by
  obtain ⟨same, foundSame, attends⟩ := keeps.thread
  obtain rfl := Option.some.inj (found.symm.trans foundSame)
  have whole : executed = duty.actions := by
    rw [← attends.plan, nothing, List.append_nil]
  subst whole
  refine ⟨?_, fun number low high => attends.joined number (Duty.join_mem_actions low high), ?_, ?_⟩
  · intro child member
    obtain ⟨process, foundProcess, _, waits, halted⟩ := attends.child child member
    have once := Duty.count_wait member
    have waited : .wait child ∈ duty.actions := List.count_pos_iff.mp (once ▸ Nat.one_pos)
    have ended := halted waited
    cases status : process.status with
    | none => simp [Process.isRunning, status] at ended
    | some code => exact ⟨process, code, foundProcess, status, waits.trans once⟩
  · rw [attends.statuses, duty.filterMap_waited?_actions]
  · rw [attends.outcome, nothing]

end Keeps

end State

end PipeShell.Pipeline
