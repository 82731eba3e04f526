import PipeShell.Proofs.Pipeline.Sealing

/-! # What a failed start can leave behind

The stages that were started are killed when a later one cannot be. What they have forked
is not, since the shell knows its own children only. But the shell waits for every drain,
and a drain goes on as long as anybody can write its pipe: whatever is left when the
failure is handed back has given up the streams that are captured. -/

set_option autoImplicit false

namespace PipeShell.Pipeline

open PipeShell.System

/-- A process forks another one in the course of some moves. -/
def Forks (moves : List Move) (parent child : Nat) : Prop :=
  ∃ move ∈ moves, move.actor = .process parent ∧
    move.before.processes.length ≤ child ∧ child < move.after.processes.length

private theorem Forks.last (moves : List Move) {before after : State} {parent child : Nat}
    (new : before.processes.length ≤ child) (forked : child < after.processes.length) :
    Forks (moves ++ [⟨before, .process parent, after⟩]) parent child :=
  ⟨_, List.mem_append_right _ (List.mem_singleton_self _), rfl, new, forked⟩

/-- The processes that there are because of the line: its stages and whatever they fork. -/
inductive OnBehalf (moves : List Move) : Nat → Prop where
  | stage {launch : Launch} : launch ∈ launchesOf moves → OnBehalf moves launch.index
  | forked {parent child : Nat} : OnBehalf moves parent → Forks moves parent child → OnBehalf moves child

private theorem OnBehalf.append {moves : List Move} {index : Nat} (onBehalf : OnBehalf moves index) (more : List Move) :
    OnBehalf (moves ++ more) index := by
  induction onBehalf with
  | @stage launch member =>
      refine .stage ?_
      rw [launchesOf, List.flatMap_append]
      exact List.mem_append_left _ member
  | forked _ forks ih =>
      obtain ⟨move, member, rest⟩ := forks
      exact .forked ih ⟨move, List.mem_append_left _ member, rest⟩

namespace State

/-! ## Lines that can be carried out -/

/-- A state in which the next line can be carried out. -/
structure Ready (state : State) : Prop where
  started : state.HasStarted
  inheriting : state.Inheriting
  made : ∀ copier ∈ state.copiers, copier.pipe < state.pipes.length

theorem ready_idle (files : FileSystem) (input : OpenFile) : (State.idle files input).Ready where
  started := hasStarted_idle files input
  inheriting := ⟨fun _ member => (by cases member), fun _ written => by cases written⟩
  made := fun _ member => by cases member

section

variable {host : Host} {before state : State} {files : FileSystem} {redirects : Redirects} {line : Line}
  {moves : List Move}

theorem Ready.sealed_prepared (ready : before.Ready) :
    (before.prepared files redirects line).Sealed before.copiers.length where
  inheriting := by
    obtain ⟨_, _, _, _, same⟩ := prepared_eq before files redirects line
    rw [same]
    exact ⟨ready.inheriting.programs, ready.inheriting.bounded⟩
  others := othersStarted_prepared before files redirects line ready.started
  ends := endsInFiles_prepared before files redirects line
  made := by
    obtain ⟨_, _, _, _, same⟩ := prepared_eq before files redirects line
    rw [same]
    exact ready.made
  dry := by
    intro number copier low found
    rw [copiers_prepared, List.getElem?_eq_none low] at found
    cases found

/-- Once something is handed back, the next line can be carried out. -/
theorem Ready.run (ready : before.Ready) (inherits : host.Inherits)
    (run : Run host (before.prepared files redirects line) moves state) (handedBack : state.conductor.outcome ≠ none) :
    state.Ready :=
  have isSealed := ready.sealed_prepared.run inherits run
  ⟨hasStarted_of_run ready.started run handedBack, isSealed.inheriting, isSealed.made⟩

end

/-! ## Where an error comes from -/

/-- Nothing has failed so far. -/
structure Unfailed (state : State) : Prop where
  agenda : ∀ error, .fail error ∉ state.conductor.agenda
  outcome : ∀ error, state.conductor.outcome ≠ some (.error error)

theorem Unfailed.keep {before after : State} (unfailed : before.Unfailed)
    (agenda : after.conductor.agenda ⊆ before.conductor.agenda)
    (outcome : after.conductor.outcome = before.conductor.outcome) : after.Unfailed where
  agenda := fun error member => unfailed.agenda error (agenda member)
  outcome := fun error same => unfailed.outcome error (outcome.symm.trans same)

private theorem fail_not_mem_joins (state : State) (error : LaunchError) : .fail error ∉ state.joins := by
  intro member
  obtain ⟨_, _, same⟩ := List.mem_map.mp member
  cases same

private theorem Unfailed.settle {state : State} (unfailed : state.Unfailed) (host : Host) :
    (state.settle host).Unfailed := by
  unfold State.settle
  split
  · constructor
    · intro error member
      simp only [List.mem_append, List.mem_cons, List.mem_map, reduceCtorEq, and_false, exists_false, false_or] at member
      exact fail_not_mem_joins state error member
    · intro error same
      cases same
  · constructor
    · intro error member
      simp only [setAgenda, List.mem_append, List.mem_map, List.mem_singleton, reduceCtorEq, and_false, exists_false,
        false_or, or_false] at member
      exact fail_not_mem_joins state error member
    · exact unfailed.outcome

/-- Only a start can fail. -/
theorem Unfailed.conduct {host : Host} {before after : State} (unfailed : before.Unfailed)
    (conducted : before.conduct host = some after) :
    after.Unfailed ∨ ∃ stage failure, Move.Fails host ⟨before, .conductor, after⟩ stage failure := by
  obtain ⟨action, rest, planned, acted⟩ := act_of_conduct conducted
  have fewer : (before.setAgenda rest).Unfailed :=
    unfailed.keep (planned ▸ List.subset_cons_self action rest) rfl
  generalize between : before.setAgenda rest = middle at acted fewer
  have follow (later : action.isStarting = false) (outcome : after.conductor.outcome = middle.conductor.outcome) :
      after.Unfailed :=
    fewer.keep (by rw [(Follows.of_act later acted).agenda]; exact List.Subset.refl _) outcome
  cases action with
  | spawn stage first last =>
      subst between
      cases acts_of_act acted with
      | started _ _ launched =>
          rw [launched]
          exact .inl (fewer.keep (List.Subset.refl _) rfl)
      | failed _ answer _ => exact .inr ⟨stage, _, first, last, rest, rfl, planned, answer⟩
      | later starting => cases starting
  | settle =>
      cases acted
      exact .inl (fewer.settle host)
  | kill child =>
      cases acted
      refine .inl (follow rfl ?_)
      rw [Aborting.conductor_kill]
      rfl
  | reap child =>
      refine .inl (follow rfl ?_)
      obtain ⟨_, _, rfl⟩ := Option.map_eq_some_iff.mp acted
      rfl
  | wait child =>
      refine .inl (follow rfl ?_)
      obtain ⟨_, _, rfl⟩ := Option.map_eq_some_iff.mp acted
      rfl
  | join number =>
      refine .inl (follow rfl ?_)
      obtain ⟨rfl, _⟩ := act_join acted
      rfl
  | report =>
      refine .inl (follow rfl ?_)
      obtain ⟨log, rfl⟩ := act_report acted
      rfl
  | finish =>
      cases acted
      exact .inl ⟨fewer.agenda, fun _ same => by cases same⟩
  | fail error => exact absurd (planned ▸ List.mem_cons_self) (unfailed.agenda error)

private theorem unfailed_prepared (before : State) (files : FileSystem) (redirects : Redirects) (line : Line) :
    (before.prepared files redirects line).Unfailed where
  agenda := fun _ member => by cases isStarting_of_spawns member
  outcome := fun _ same => by cases same

end State

section

variable {host : Host} {before state : State} {files : FileSystem} {redirects : Redirects} {line : Line}
  {moves : List Move} {error : LaunchError}

/-- Whenever an error is handed back, a stage could not be started. -/
theorem exists_fails_of_error (started : before.HasStarted)
    (run : Run host (before.prepared files redirects line) moves state)
    (failed : state.conductor.outcome = some (.error error)) :
    ∃ move ∈ moves, ∃ stage failure, move.Fails host stage failure := by
  suffices unfailed : state.Unfailed ∨ ∃ move ∈ moves, ∃ stage failure, move.Fails host stage failure by
    rcases unfailed with unfailed | fails
    · exact absurd failed (unfailed.outcome error)
    · exact fails
  clear failed
  induction run with
  | idle => exact .inl (State.unfailed_prepared before files redirects line)
  | @move moves earlier after actor run moved ih =>
      rcases ih with unfailed | ⟨move, member, fails⟩
      · by_cases own : actor = .conductor
        · subst own
          rcases unfailed.conduct (State.conduct_of_move moved) with unfailed | fails
          · exact .inl unfailed
          · exact .inr ⟨_, List.mem_append_right _ (List.mem_singleton_self _), fails⟩
        · obtain ⟨_, others⟩ := State.orderly_of_run run (State.orderly_prepared before files redirects line)
            (State.othersStarted_prepared before files redirects line started)
          have conductor := (State.Undisturbed.move others own moved).conductor
          exact .inl (unfailed.keep (conductor ▸ List.Subset.refl _) (conductor ▸ rfl))
      · exact .inr ⟨move, List.mem_append_left _ member, fails⟩

/-! ## Who drains what -/

/-- Copiers go on reading the pipes that they read. -/
theorem courses_of_run {start : State} (run : Run host start moves state) :
    start.copiers.map Copier.course <+: state.copiers.map Copier.course := by
  induction run with
  | idle => exact List.prefix_rfl
  | @move _ before after actor _ moved ih =>
      refine ih.trans ?_
      by_cases copies : ∃ number, actor = .copier number
      · obtain ⟨number, rfl⟩ := copies
        unfold State.move at moved
        split at moved
        · cases moved
        · simp only [State.turn] at moved
          split at moved
          · next found =>
              have courses := (State.Undisturbed.moveCopier found moved).courses
              exact courses ▸ List.prefix_rfl
          · cases moved
      · obtain ⟨added, same, _⟩ := (State.Remains.move (fun number same => copies ⟨number, same⟩) moved).copiers
        rw [same, List.map_append]
        exact List.prefix_append _ _

/-- Where a stage cannot be started, the errors of every stage before it are drained. -/
theorem captured_of_fails {move : Move} {stage : Stage} {failure : Failure} (started : before.HasStarted)
    (run : Run host (before.prepared files redirects line) moves move.before) (fails : move.Fails host stage failure) :
    ∀ launch ∈ launchesOf moves, ∃ pipe number, launch.port 2 = some (.writer pipe) ∧ before.copiers.length ≤ number ∧
      (move.before.copiers.map Copier.course)[number]? = some (pipe, some .error) := by
  obtain ⟨first, last, agenda, _, planned, _⟩ := fails
  obtain ⟨succeeded, _⟩ := unfailed_of_run started run ⟨_, planned ▸ List.mem_cons_self, rfl⟩
  have phase := (Phase.initial before files redirects line started).run
    (State.endsInFiles_prepared before files redirects line) run succeeded
  cases phase with
  | started _ _ _ none =>
      rw [planned] at none
      rcases none with settling | later
      · cases settling
      · cases later _ List.mem_cons_self
  | starting _ underway _ chain =>
      intro launch member
      obtain ⟨pipe, leads, drained⟩ := chain.captured launch member
      obtain ⟨offset, found⟩ := List.mem_iff_getElem?.mp drained
      refine ⟨pipe, before.copiers.length + offset, leads, Nat.le_add_right _ _, ?_⟩
      rw [underway.courses, State.copiers_prepared, List.getElem?_append_right (by simp), ← found]
      simp

/-- Nobody can write what a drain has copied, once it is over. -/
theorem unwritten_of_joined {earlier : State} {first number pipe : Nat} {sink : Option Sink} (isSealed : state.Sealed first)
    (run : Run host earlier moves state) (low : first ≤ number)
    (course : (earlier.copiers.map Copier.course)[number]? = some (pipe, sink))
    (joined : ∀ number, first ≤ number → number < state.copiers.length → state.Joined number) :
    state.hasWriter pipe = false := by
  obtain ⟨added, kept⟩ := courses_of_run run
  have now : (state.copiers.map Copier.course)[number]? = some (pipe, sink) := by
    rw [← kept, List.getElem?_append_left (List.getElem?_eq_some_iff.mp course).1, course]
  rw [List.getElem?_map] at now
  obtain ⟨copier, found, same⟩ := Option.map_eq_some_iff.mp now
  obtain ⟨other, foundOther, isDone⟩ := joined number low (List.getElem?_eq_some_iff.mp found).1
  obtain rfl := Option.some.inj (found.symm.trans foundOther)
  obtain ⟨rfl, _⟩ := Prod.mk.inj same
  exact isSealed.dry number copier low found (Option.isNone_iff_eq_none.mp (Bool.and_eq_true_iff.mp isDone).1)

/-- After a failed start, nobody can write the errors of the stages before it, once all
drains are over. -/
theorem unwritten_of_fails {move : Move} {stage : Stage} {failure : Failure} (ready : before.Ready)
    (inherits : host.Inherits) (run : Run host (before.prepared files redirects line) moves state) (member : move ∈ moves)
    (fails : move.Fails host stage failure)
    (joined : ∀ number, before.copiers.length ≤ number → number < state.copiers.length → state.Joined number) :
    ∀ launch ∈ launchesOf moves, ∃ pipe, launch.port 2 = some (.writer pipe) ∧ state.hasWriter pipe = false := by
  have isSealed := ready.sealed_prepared.run inherits run
  obtain ⟨front, back, rfl, first, moved, last⟩ := run.split member
  obtain ⟨_, _, _, _, _, none, others, aborting⟩ := aborting_of_fails ready.started first moved fails
  have later : back.flatMap Move.launches = [] := (aborting.run others last).2.2
  intro launch among
  have early : launch ∈ launchesOf front := by
    rw [launchesOf, List.flatMap_append, List.flatMap_cons, none] at among
    simpa [launchesOf, later] using among
  obtain ⟨pipe, number, leads, low, course⟩ := captured_of_fails ready.started first fails launch early
  exact ⟨pipe, leads, unwritten_of_joined isSealed (last.cons moved) low course joined⟩

end

/-! ## A child that gets away -/

/-- A host whose first program forks a child that closes what it was started with and
goes to sleep; there is no other program. -/
def Host.forking : Host := { Host.still with
  start := fun pid _ _ =>
    if pid = 2 then
      .ok (.fork (·.close [0, 1, 2]) (fun _ => .sleep 1 fun _ => .exit .success) fun _ => .exit .success)
    else .error (.os .noEntry) }

theorem Host.inherits_forking : Host.forking.Inherits := by
  intro pid files command program started
  simp only [Host.forking] at started
  split at started
  · cases started
    exact .fork (Holdings.narrows_close _) (fun _ => .sleep fun _ => .exit) fun _ => .exit
  · cases started

/-- The child is forked before the second start fails, and the shell does not notice it. -/
theorem exists_run_forking :
    let line : Line := { stages := [⟨["sh"]⟩, ⟨["nope"]⟩] }
    ∃ moves state process, Run Host.forking ((State.idle .empty .null).prepared .empty {} line) moves state ∧
      state.conductor.outcome = some (.error (.executableNotFound "nope")) ∧ OnBehalf moves 1 ∧
      state.processes[1]? = some process ∧ process.isRunning = true := by
  intro line
  have waiting : Run Host.forking ((State.idle .empty .null).prepared .empty {} line) [] _ := .idle
  have first := waiting.move (rfl : State.move Host.forking _ .conductor = some _)
  have forked := first.move (rfl : State.move Host.forking _ (.process 0) = some _)
  have second := forked.move (rfl : State.move Host.forking _ .conductor = some _)
  have killed := second.move (rfl : State.move Host.forking _ .conductor = some _)
  have reaped := killed.move (rfl : State.move Host.forking _ .conductor = some _)
  have drained := reaped.move (rfl : State.move Host.forking _ (.copier 0) = some _)
  have joined := drained.move (rfl : State.move Host.forking _ .conductor = some _)
  have returned := joined.move (rfl : State.move Host.forking _ .conductor = some _)
  refine ⟨_, _, _, returned, rfl, ?_, rfl, rfl⟩
  -- The first move starts the stage, and the second one forks the child.
  refine .append (?_ : OnBehalf ([_] ++ [_]) 1) [_, _, _, _, _, _]
  refine @OnBehalf.forked _ 0 1 (.append ?_ [_]) ?_
  · exact @OnBehalf.stage _ ⟨0, _⟩ (List.mem_singleton_self _)
  · exact Forks.last [_] (Nat.le_refl 1) (Nat.lt_succ_self 1)

/-- So it may be that not everything is over that was started on behalf of the line. -/
theorem not_all_ended_of_error :
    ¬∀ (host : Host) (before state : State) (files : FileSystem) (redirects : Redirects) (line : Line) (moves : List Move)
      (error : LaunchError), before.Ready → host.Inherits → Run host (before.prepared files redirects line) moves state →
      state.conductor.outcome = some (.error error) → ∀ (index : Nat) (process : Process), OnBehalf moves index →
        state.processes[index]? = some process → process.isRunning = false := by
  intro claim
  obtain ⟨moves, state, process, run, failed, onBehalf, found, running⟩ := exists_run_forking
  have ended := claim _ _ _ _ _ _ _ _ (State.ready_idle _ _) Host.inherits_forking run failed 1 process onBehalf found
  cases running.symm.trans ended

/-! ## The survivors -/

/-- Whenever carrying out a line ends with a failed start, whatever its stages have forked
by then: the error is the one of the stage that failed; the stages before it have ended and
were waited for; what they write to their error streams is captured, and nobody can write
these streams any more. So whoever is left was forked and has given them up. -/
theorem survivors_of_error {host : Host} {before state : State} {files : FileSystem} {redirects : Redirects} {line : Line}
    {moves : List Move} {error : LaunchError} (ready : before.Ready) (inherits : host.Inherits)
    (run : Run host (before.prepared files redirects line) moves state)
    (failed : state.conductor.outcome = some (.error error)) :
    (∃ done stage rest failure, line.stages = done ++ stage :: rest ∧
      error = LaunchError.ofFailure stage.program failure ∧ List.Forall₂ (Launch.Runs host) done (launchesOf moves)) ∧
    (∀ launch ∈ launchesOf moves, state.Reaped launch.index ∧
      ∃ pipe, launch.port 2 = some (.writer pipe) ∧ state.hasWriter pipe = false) ∧
    ∀ (index : Nat) (process : Process), OnBehalf moves index → state.processes[index]? = some process →
      process.isRunning = true →
      (∀ launch ∈ launchesOf moves, launch.index ≠ index) ∧ (∃ parent, OnBehalf moves parent ∧ Forks moves parent index) ∧
        ∀ launch ∈ launchesOf moves, ∀ pipe, launch.port 2 = some (.writer pipe) → process.writes pipe = false := by
  obtain ⟨move, member, stage, failure, fails⟩ := exists_fails_of_error ready.started run failed
  obtain ⟨_, done, rest, split, cleanup⟩ := cleanup_of_run ready.started run member fails
  have nothing : state.conductor.agenda = [] := by
    by_contra pending
    cases failed.symm.trans (cleanup.pending pending)
  obtain ⟨returned, _, reaped, joined⟩ := cleanup.returned nothing
  have closed := unwritten_of_fails ready inherits run member fails joined
  refine ⟨⟨done, stage, rest, failure, split, ?_, cleanup.started⟩, ?_, ?_⟩
  · cases failed.symm.trans returned
    rfl
  · exact fun launch among => ⟨reaped launch among, closed launch among⟩
  · intro index process onBehalf found running
    have stranger : ∀ launch ∈ launchesOf moves, launch.index ≠ index := by
      rintro launch among rfl
      obtain ⟨ended, foundEnded, halted, _⟩ := reaped launch among
      obtain rfl := Option.some.inj (found.symm.trans foundEnded)
      cases running.symm.trans halted
    refine ⟨stranger, ?_, ?_⟩
    · cases onBehalf with
      | stage among => exact absurd rfl (stranger _ among)
      | forked parent forks => exact ⟨_, parent, forks⟩
    · intro launch among pipe leads
      obtain ⟨other, leadsOther, unwritten⟩ := closed launch among
      cases leads.symm.trans leadsOther
      exact eq_false_of_ne_true fun writes =>
        absurd unwritten (ne_false_of_eq_true (List.any_eq_true.mpr ⟨process, List.mem_of_getElem? found, writes⟩))

/-- The child that gets away holds none of the streams that its parent was started with. -/
theorem survivors_of_error_forking :
    let line : Line := { stages := [⟨["sh"]⟩, ⟨["nope"]⟩] }
    ∃ moves state process, Run Host.forking ((State.idle .empty .null).prepared .empty {} line) moves state ∧
      state.conductor.outcome = some (.error (.executableNotFound "nope")) ∧ state.processes[1]? = some process ∧
      process.isRunning = true ∧ (∃ parent, OnBehalf moves parent ∧ Forks moves parent 1) ∧
      ∀ launch ∈ launchesOf moves, ∀ pipe, launch.port 2 = some (.writer pipe) → process.writes pipe = false := by
  intro line
  obtain ⟨moves, state, process, run, failed, onBehalf, found, running⟩ := exists_run_forking
  have survivors := survivors_of_error (State.ready_idle .empty .null) Host.inherits_forking run failed
  obtain ⟨_, forked, given⟩ := survivors.2.2 1 process onBehalf found running
  exact ⟨moves, state, process, run, failed, found, running, forked, given⟩

end PipeShell.Pipeline
