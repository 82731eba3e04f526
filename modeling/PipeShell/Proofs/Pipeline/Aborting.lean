import PipeShell.Proofs.Pipeline.Progress
import PipeShell.Proofs.Pipeline.Remains

/-! # After a failed start

When a stage cannot be started, the shell's thread kills every child that it has
started, waits for it, and then for every drain, before it hands the failure back. What
the children and their descendants do meanwhile, and how many other lines go on, makes no
difference. -/

set_option autoImplicit false

namespace PipeShell.Pipeline

open PipeShell.System

/-! ## What the thread has done -/

/-- The action that a move of the shell's thread carries out. -/
def Move.action? (move : Move) : Option Action :=
  match move.actor with
  | .conductor => move.before.conductor.agenda.head?
  | _ => none

/-- All actions that the shell's thread carries out in the course of some moves, in
order. -/
def actionsOf (moves : List Move) : List Action := moves.filterMap Move.action?

theorem actionsOf_append (moves more : List Move) : actionsOf (moves ++ more) = actionsOf moves ++ actionsOf more :=
  List.filterMap_append

theorem actionsOf_concat (moves : List Move) (move : Move) :
    actionsOf (moves ++ [move]) = actionsOf moves ++ move.action?.toList := by
  rw [actionsOf_append]
  cases action : move.action? <;> simp [actionsOf, action]

/-- A run can be taken apart at each of its moves. -/
theorem Run.split {host : Host} {start state : State} {moves : List Move} {move : Move} (run : Run host start moves state)
    (member : move ∈ moves) : ∃ front back, moves = front ++ move :: back ∧ Run host start front move.before ∧
      move.before.move host move.actor = some move.after ∧ Run host move.after back state := by
  induction run with
  | idle => cases member
  | @move _ before after actor run moved ih =>
      rcases List.mem_append.mp member with old | new
      · obtain ⟨front, back, rfl, first, middle, last⟩ := ih old
        exact ⟨front, back ++ [⟨before, actor, after⟩], by simp, first, middle, last.move moved⟩
      · obtain rfl := List.mem_singleton.mp new
        exact ⟨_, [], rfl, run, moved, .idle⟩

namespace State

/-- The process with an index has ended and was waited for. -/
def Reaped (state : State) (index : Nat) : Prop :=
  ∃ process, state.processes[index]? = some process ∧ process.isRunning = false ∧ process.waits ≠ 0

theorem ended_of_remains {earlier later : Process} (remains : earlier.Remains later) (ended : earlier.isRunning = false) :
    later.isRunning = false := by
  cases status : earlier.status with
  | none => simp [Process.isRunning, status] at ended
  | some code => simp [Process.isRunning, remains.status code status]

section

variable {before after : State} {index : Nat}
  (remains : ∀ (index : Nat) (earlier : Process), before.processes[index]? = some earlier →
    ∃ later, after.processes[index]? = some later ∧ earlier.Remains later)
include remains

theorem Ended.kept (ended : before.Ended index) : after.Ended index := by
  obtain ⟨earlier, found, halted⟩ := ended
  obtain ⟨later, foundLater, remains⟩ := remains index earlier found
  exact ⟨later, foundLater, ended_of_remains remains halted⟩

theorem Reaped.kept (reaped : before.Reaped index) : after.Reaped index := by
  obtain ⟨earlier, found, halted, waited⟩ := reaped
  obtain ⟨later, foundLater, remains⟩ := remains index earlier found
  refine ⟨later, foundLater, ended_of_remains remains halted, ?_⟩
  have := remains.waits
  omega

end

/-- The copier with a number is done. -/
def Joined (state : State) (number : Nat) : Prop :=
  ∃ copier, state.copiers[number]? = some copier ∧ copier.isDone = true

/-! ## The invariant -/

/-- What the thread does after a failed start: it gets rid of the children, waits for so
many copiers from the first one of the line on, and hands an error back. -/
def abortion (children : List Child) (first count : Nat) (error : LaunchError) : List Action :=
  kills children ++ (List.range' first count).map .join ++ [.fail error]

theorem reap_mem_abortion {children : List Child} {child : Child} (member : child ∈ children) (first count : Nat)
    (error : LaunchError) : .reap child ∈ abortion children first count error := by
  have among : .reap child ∈ kills children := List.mem_flatMap.mpr ⟨child, member, by simp⟩
  exact List.mem_append_left _ (List.mem_append_left _ among)

theorem join_mem_abortion {first count number : Nat} (low : first ≤ number) (high : number < first + count)
    (children : List Child) (error : LaunchError) : .join number ∈ abortion children first count error := by
  have among : Action.join number ∈ (List.range' first count).map Action.join :=
    List.mem_map.mpr ⟨number, List.mem_range'_1.mpr ⟨low, high⟩, rfl⟩
  exact List.mem_append_left _ (List.mem_append_right _ among)

theorem joins_eq (state : State) : state.joins =
    (List.range' state.conductor.firstCopier (state.copiers.length - state.conductor.firstCopier)).map .join := by
  simp [joins, List.range_eq_range', List.drop_range']

/-- The thread has carried out some actions since a start failed, and has the others
still to do. -/
structure Aborting (children : List Child) (first count : Nat) (error : LaunchError) (executed : List Action)
    (state : State) : Prop where
  plan : executed ++ state.conductor.agenda = abortion children first count error
  copiers : state.copiers.length = first + count
  started : ∀ child ∈ children, child.process < state.processes.length
  killed : ∀ child, .kill child ∈ executed → state.Ended child.process
  reaped : ∀ child, .reap child ∈ executed → state.Reaped child.process
  joined : ∀ number, .join number ∈ executed → state.Joined number
  pending : state.conductor.agenda ≠ [] → state.conductor.outcome = none
  closed : state.conductor.agenda = [] → state.conductor.outcome = some (.error error) ∧ state.conductor.held = none

theorem mem_kills {children : List Child} {action : Action} (member : action ∈ kills children) :
    ∃ child ∈ children, action = .kill child ∨ action = .reap child := by
  obtain ⟨child, among, found⟩ := List.mem_flatMap.mp member
  exact ⟨child, among, by simpa using found⟩

theorem mem_joins {first count : Nat} {action : Action} (member : action ∈ (List.range' first count).map Action.join) :
    ∃ number, number < first + count ∧ action = .join number := by
  obtain ⟨number, among, rfl⟩ := List.mem_map.mp member
  exact ⟨number, (List.mem_range'_1.mp among).2, rfl⟩

/-- Whoever is waited for was killed before. -/
theorem killed_before {children : List Child} {child : Child} {executed rest tail : List Action}
    (none : .reap child ∉ tail) (split : executed ++ .reap child :: rest = kills children ++ tail) :
    .kill child ∈ executed := by
  induction children generalizing executed with
  | nil =>
      obtain rfl : executed ++ .reap child :: rest = tail := split
      exact absurd (List.mem_append_right executed List.mem_cons_self) none
  | cons first children ih =>
      change executed ++ .reap child :: rest = .kill first :: .reap first :: (kills children ++ tail) at split
      match executed with
      | [] => cases split
      | [action] =>
          obtain ⟨rfl, same⟩ := List.cons.inj split
          cases same
          exact List.mem_cons_self
      | action :: other :: executed =>
          obtain ⟨_, same⟩ := List.cons.inj split
          have later := ih (List.cons.inj same).2
          exact List.mem_cons_of_mem _ (List.mem_cons_of_mem _ later)

/-- All children were killed before a copier is waited for. -/
theorem kills_before {children : List Child} {executed rest tail : List Action} {action : Action}
    (other : action ∉ kills children) (split : executed ++ action :: rest = kills children ++ tail) :
    kills children ⊆ executed := by
  rcases List.append_eq_append_iff.mp split with ⟨more, same, after⟩ | ⟨more, rfl, _⟩
  · cases more with
    | nil => rw [same, List.append_nil]; exact List.Subset.refl _
    | cons first more =>
        obtain rfl : action = first := (List.cons.inj after).1
        exact absurd (same ▸ List.mem_append_right executed List.mem_cons_self) other
  · exact List.subset_append_left _ _

namespace Aborting

variable {host : Host} {before after : State} {children : List Child} {first count : Nat}
  {error : LaunchError} {executed : List Action}

/-- Every action but the last kills or reaps a child or waits for a copier. -/
theorem next_cases (aborting : Aborting children first count error executed before) {action : Action} {rest : List Action}
    (planned : before.conductor.agenda = action :: rest) :
    (rest ≠ [] ∧ ((∃ child ∈ children, action = .kill child ∨ action = .reap child) ∨
      ∃ number, number < before.copiers.length ∧ action = .join number)) ∨ rest = [] ∧ action = .fail error := by
  have plan := aborting.plan
  rw [planned, abortion] at plan
  rcases List.eq_nil_or_concat rest with rfl | ⟨front, last, rfl⟩
  · obtain ⟨_, same⟩ := List.append_inj' plan rfl
    exact .inr ⟨rfl, (List.cons.inj same).1⟩
  · rw [List.concat_eq_append, ← List.cons_append, ← List.append_assoc] at plan
    obtain ⟨same, _⟩ := List.append_inj' plan rfl
    have member : action ∈ kills children ++ (List.range' first count).map Action.join := by
      rw [← same]
      exact List.mem_append_right _ List.mem_cons_self
    refine .inl ⟨by simp, ?_⟩
    rcases List.mem_append.mp member with kill | join
    · exact .inl (mem_kills kill)
    · rw [aborting.copiers]
      exact .inr (mem_joins join)

theorem later (aborting : Aborting children first count error executed before) :
    ∀ action ∈ before.conductor.agenda, action.isStarting = false := by
  intro action member
  have among : action ∈ abortion children first count error := by
    rw [← aborting.plan]
    exact List.mem_append_right _ member
  rcases List.mem_append.mp among with (inner | last)
  · rcases List.mem_append.mp inner with kill | join
    · obtain ⟨child, _, rfl | rfl⟩ := mem_kills kill
      · rfl
      · rfl
    · obtain ⟨number, _, rfl⟩ := mem_joins join
      rfl
  · obtain rfl := List.mem_singleton.mp last
    rfl

/-- What the others do leaves the thread with the same things to do. -/
theorem disturb {actor : Actor} (aborting : Aborting children first count error executed before)
    (undisturbed : Undisturbed before after) (moved : before.move host actor = some after) :
    Aborting children first count error executed after where
  plan := by
    rw [undisturbed.conductor]
    exact aborting.plan
  copiers := by
    have same : after.copiers.length = before.copiers.length := by
      simpa using congrArg List.length undisturbed.courses
    rw [same, aborting.copiers]
  started := fun child member => Nat.lt_of_lt_of_le (aborting.started child member) undisturbed.processes
  killed := fun child member => (aborting.killed child member).kept fun _ _ => process_of_move moved
  reaped := fun child member => (aborting.reaped child member).kept fun _ _ => process_of_move moved
  joined := by
    intro number member
    obtain ⟨copier, found, done⟩ := aborting.joined number member
    exact ⟨copier, copier_of_move moved found done, done⟩
  pending := by
    rw [undisturbed.conductor]
    exact aborting.pending
  closed := by
    rw [undisturbed.conductor]
    exact aborting.closed

theorem conductor_kill (state : State) (index : Nat) : (state.kill index).conductor = state.conductor := by
  unfold State.kill
  split
  · split <;> rfl
  · rfl

private theorem reaped_of_act {child : Child} {rest : List Action}
    (acted : (before.setAgenda rest).act host (.reap child) = some after) : after.Reaped child.process := by
  obtain ⟨status, asked, rfl⟩ := Option.map_eq_some_iff.mp acted
  obtain ⟨process, found, halted⟩ := Option.bind_eq_some_iff.mp asked
  refine ⟨{ process with waits := process.waits + 1 }, ?_, ?_, Nat.succ_ne_zero _⟩
  · exact (List.getElem?_modify ..).trans (by rw [found]; simp)
  · simp [Process.isRunning, halted]

theorem joined_of_act {number : Nat} (bound : number < before.copiers.length)
    (acted : before.act host (.join number) = some after) : before.Joined number :=
  ⟨_, List.getElem?_eq_getElem bound, (act_join acted).2 _ (List.getElem?_eq_getElem bound)⟩

/-- The thread carries out one more action. -/
theorem conduct (aborting : Aborting children first count error executed before) {action : Action} {rest : List Action}
    (planned : before.conductor.agenda = action :: rest)
    (acted : (before.setAgenda rest).act host action = some after) :
    Aborting children first count error (executed ++ [action]) after := by
  have actionLater := aborting.later action (planned ▸ List.mem_cons_self)
  have follows := Follows.of_act actionLater acted
  have remains := (Remains.act acted).process
  have agenda : after.conductor.agenda = rest := follows.agenda
  have copiers : after.copiers = before.copiers ∧ after.processes.length = before.processes.length := by
    obtain ⟨_, _, _, rfl, aged, _⟩ := act_eq actionLater acted
    exact ⟨rfl, aged.length⟩
  constructor
  case plan =>
    rw [agenda, ← aborting.plan, planned, List.append_assoc]
    rfl
  case copiers =>
    rw [copiers.1]
    exact aborting.copiers
  case started =>
    intro child member
    rw [copiers.2]
    exact aborting.started child member
  case killed =>
    intro child member
    rcases List.mem_append.mp member with old | new
    · exact (aborting.killed child old).kept remains
    · obtain rfl := List.mem_singleton.mp new
      obtain ⟨_, ⟨other, among, same | same⟩ | ⟨_, _, same⟩⟩ | ⟨_, same⟩ := aborting.next_cases planned
      · cases same
        cases acted
        exact ended_kill (aborting.started child among)
      all_goals cases same
  case reaped =>
    intro child member
    rcases List.mem_append.mp member with old | new
    · exact (aborting.reaped child old).kept remains
    · obtain rfl := List.mem_singleton.mp new
      exact reaped_of_act acted
  case joined =>
    intro number member
    rw [Joined, copiers.1]
    rcases List.mem_append.mp member with old | new
    · exact aborting.joined number old
    · obtain rfl := List.mem_singleton.mp new
      obtain ⟨_, ⟨_, _, same | same⟩ | ⟨other, bound, same⟩⟩ | ⟨_, same⟩ := aborting.next_cases planned
      · cases same
      · cases same
      · cases same
        exact (joined_of_act bound acted : (before.setAgenda rest).Joined _)
      · cases same
  case pending =>
    intro more
    obtain ⟨_, next⟩ | ⟨none, _⟩ := aborting.next_cases planned
    · have open_ : before.conductor.outcome = none := aborting.pending (by simp [planned])
      have same : after.conductor.outcome = before.conductor.outcome := by
        obtain ⟨_, _, rfl | rfl⟩ | ⟨_, _, rfl⟩ := next
        · cases acted
          rw [conductor_kill]
          rfl
        · obtain ⟨_, _, rfl⟩ := Option.map_eq_some_iff.mp acted
          rfl
        · obtain ⟨rfl, _⟩ := act_join acted
          rfl
      exact same.trans open_
    · exact absurd (agenda.trans none) more
  case closed =>
    intro nothing
    obtain ⟨more, _⟩ | ⟨_, rfl⟩ := aborting.next_cases planned
    · exact absurd (agenda.symm.trans nothing) more
    · cases acted
      exact ⟨rfl, rfl⟩

/-- Whatever happens after a failed start, the thread goes through what it has to do, and
starts nothing. -/
theorem run {start state : State} {moves : List Move} (aborting : Aborting children first count error executed start)
    (others : start.OthersStarted) (run : Run host start moves state) :
    Aborting children first count error (executed ++ actionsOf moves) state ∧ state.OthersStarted ∧ launchesOf moves = [] := by
  induction run with
  | idle => exact ⟨by simpa [actionsOf] using aborting, others, rfl⟩
  | @move moves before after actor _ moved ih =>
      obtain ⟨aborting, others, nothing⟩ := ih
      rw [actionsOf_concat, launchesOf_concat, nothing, List.nil_append, ← List.append_assoc]
      by_cases own : actor = .conductor
      · subst own
        obtain ⟨action, rest, planned, acted⟩ := act_of_conduct (conduct_of_move moved)
        have did : Move.action? ⟨before, .conductor, after⟩ = some action := by simp [Move.action?, planned]
        have later := aborting.later action (planned ▸ List.mem_cons_self)
        refine ⟨?_, others.kept (act_frame acted).2, ?_⟩
        · rw [did]
          exact aborting.conduct planned acted
        · have length : after.processes.length = (before.setAgenda rest).processes.length :=
            length_processes_act later acted
          exact Move.launches_nil fun _ => length
      · have undisturbed := Undisturbed.move others own moved
        have did : Move.action? ⟨before, actor, after⟩ = none := by
          cases actor with
          | conductor => exact absurd rfl own
          | reaper | process | copier | clock => rfl
        refine ⟨?_, undisturbed.othersStarted others, Move.launches_nil fun same => absurd same own⟩
        rw [did, Option.toList_none, List.append_nil]
        exact aborting.disturb undisturbed moved

/-- The thread is held up by nothing but a copier, and a copier by nothing but a process
that the thread did not start for the line. -/
theorem progress (aborting : Aborting children first count error executed before) (alive : before.killed = none)
    (pending : before.conductor.agenda ≠ []) :
    (∃ after, before.move host .conductor = some after) ∨
      ∃ number copier rest, before.conductor.agenda = .join number :: rest ∧
        before.copiers[number]? = some copier ∧ copier.isDone = false ∧
        ((∃ after, before.move host (.copier number) = some after) ∨
          ∃ (index : Nat) (process : Process), before.processes[index]? = some process ∧
            process.writes copier.pipe = true ∧ ∀ child ∈ children, child.process ≠ index) := by
  obtain ⟨action, rest, planned⟩ := List.exists_cons_of_ne_nil pending
  have noReap (child : Child) : .reap child ∉ (List.range' first count).map Action.join ++ [.fail error] := by
    intro member
    rcases List.mem_append.mp member with join | fail
    · obtain ⟨_, _, same⟩ := mem_joins join
      cases same
    · cases List.mem_singleton.mp fail
  have go {after : State} (acted : (before.setAgenda rest).act host action = some after) :
      ∃ after, before.move host .conductor = some after := by
    refine ⟨after, ?_⟩
    simp only [State.move, alive, Option.isSome_none, Bool.false_eq_true, if_false, turn, State.conduct, planned]
    exact acted
  have plan := aborting.plan
  rw [planned, abortion, List.append_assoc] at plan
  obtain ⟨_, ⟨child, among, rfl | rfl⟩ | ⟨number, bound, rfl⟩⟩ | ⟨_, rfl⟩ := aborting.next_cases planned
  · exact .inl (go rfl)
  · have ended := aborting.killed child (killed_before (noReap child) plan)
    obtain ⟨status, asked⟩ := Ended.statusOf ended
    exact .inl (go (Option.map_eq_some_iff.mpr ⟨status, asked, rfl⟩))
  · have found : before.copiers[number]? = some before.copiers[number] := List.getElem?_eq_getElem bound
    have foundLater : (before.setAgenda rest).copiers[number]? = some before.copiers[number] := found
    cases done : (before.copiers[number]).isDone with
    | true => exact .inl (go (by simp only [State.act, foundLater, done, if_true]; rfl))
    | false =>
        refine .inr ⟨number, _, rest, planned, found, done, ?_⟩
        cases written : before.hasWriter (before.copiers[number]).pipe with
        | false => exact .inl (exists_move_copier alive found done (.inl written))
        | true =>
            -- All children were killed before, so it is somebody else who can still write.
            obtain ⟨process, member, writes⟩ := List.any_eq_true.mp written
            obtain ⟨index, foundProcess⟩ := List.mem_iff_getElem?.mp member
            refine .inr ⟨index, process, foundProcess, writes, ?_⟩
            rintro child among rfl
            have kills := kills_before (by simp [State.kills]) plan
            have killed : .kill child ∈ executed :=
              kills (List.mem_flatMap.mpr ⟨child, among, List.mem_cons_self⟩)
            obtain ⟨ended, foundEnded, halted⟩ := aborting.killed child killed
            obtain rfl := Option.some.inj (foundProcess.symm.trans foundEnded)
            rw [(Bool.and_eq_true_iff.mp writes).1] at halted
            cases halted
  · exact .inl (go rfl)

end Aborting

end State

end PipeShell.Pipeline
