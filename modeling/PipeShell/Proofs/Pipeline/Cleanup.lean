import PipeShell.Proofs.Pipeline.Aborting

/-! # A failed start leaves nothing behind

Whichever stage of a line cannot be started, wherever the line sends its streams and
whether or not it goes to the background: the stages before it were started, those after
it never are, and when the failure is handed back no child of the line is left. -/

set_option autoImplicit false

namespace PipeShell

open PipeShell.System

def LaunchError.program : LaunchError → String
  | .executableNotFound program => program
  | .permissionDenied program => program
  | .other program _ => program

private theorem LaunchError.program_ofMessage (program message : String) :
    (LaunchError.ofMessage program message).program = program := by
  unfold LaunchError.ofMessage
  repeat' split
  all_goals rfl

private theorem LaunchError.program_ofFailure (program : String) (failure : Failure) :
    (LaunchError.ofFailure program failure).program = program := by
  unfold LaunchError.ofFailure
  split
  · rfl
  · rfl
  · split
    · rfl
    · exact LaunchError.program_ofMessage program failure.message

namespace Pipeline

/-! ## Before the failure -/

/-- The move tries in vain to start a stage. -/
def Move.Fails (host : Host) (move : Move) (stage : Stage) (failure : Failure) : Prop :=
  ∃ first last agenda, move.actor = .conductor ∧ move.before.conductor.agenda = .spawn stage first last :: agenda ∧
    host.start (State.pidOf host move.before.processes.length) move.before.files
      (host.launcher.command stage.argv host.directory) = .error failure

private theorem Move.indices_launches (move : Move) :
    move.launches = [] ∨ move.launches.map Launch.index = List.range' move.before.processes.length
      (move.after.processes.length - move.before.processes.length) := by
  unfold Move.launches
  split
  · refine .inr ?_
    have indices := congrArg (List.drop move.before.processes.length) (List.zipIdx_map_snd 0 move.after.processes)
    rw [← List.map_drop] at indices
    rw [List.map_map]
    refine Eq.trans ?_ (indices.trans ?_)
    · rfl
    · simp [List.drop_range']
  · exact .inl rfl

/-- Every process that is started gets an index of its own. -/
theorem increasing_of_run {host : Host} {start state : State} {moves : List Move} (run : Run host start moves state) :
    ((launchesOf moves).map Launch.index).Pairwise (· < ·) ∧
      ∀ launch ∈ launchesOf moves, launch.index < state.processes.length := by
  induction run with
  | idle => exact ⟨.nil, fun _ member => nomatch member⟩
  | @move moves before after actor _ moved ih =>
      obtain ⟨increasing, below⟩ := ih
      have more := State.length_processes_of_move moved
      have old : ∀ launch ∈ launchesOf moves, launch.index < after.processes.length :=
        fun launch member => Nat.lt_of_lt_of_le (below launch member) more
      rw [launchesOf_concat, List.map_append]
      rcases Move.indices_launches ⟨before, actor, after⟩ with none | indices
      · rw [none]
        simpa using ⟨increasing, old⟩
      · have bounds : ∀ launch ∈ Move.launches ⟨before, actor, after⟩,
            before.processes.length ≤ launch.index ∧ launch.index < after.processes.length := by
          intro launch member
          have among : launch.index ∈ (Move.launches ⟨before, actor, after⟩).map Launch.index :=
            List.mem_map_of_mem member
          rw [indices, List.mem_range'_1] at among
          dsimp only at among
          omega
        refine ⟨List.pairwise_append.mpr ⟨increasing, ?_, ?_⟩, ?_⟩
        · rw [indices]
          exact List.pairwise_lt_range'
        · intro low lowMember high highMember
          obtain ⟨first, firstMember, rfl⟩ := List.mem_map.mp lowMember
          obtain ⟨second, secondMember, rfl⟩ := List.mem_map.mp highMember
          exact Nat.lt_of_lt_of_le (below first firstMember) (bounds second secondMember).1
        · intro launch member
          rcases List.mem_append.mp member with earlier | new
          · exact old launch earlier
          · exact (bounds launch new).2

private theorem State.spawns_append (first : Bool) (done : List Stage) (stage : Stage) (rest : List Stage) :
    ∃ spawned, spawned.length = done.length ∧
      spawns first (done ++ stage :: rest) = spawned ++ spawns (first && done.isEmpty) (stage :: rest) := by
  induction done generalizing first with
  | nil => exact ⟨[], rfl, by simp⟩
  | cons one done ih =>
      obtain ⟨spawned, length, same⟩ := ih false
      refine ⟨.spawn one first false :: spawned, congrArg (· + 1) length, ?_⟩
      have inner : spawns first (one :: (done ++ stage :: rest)) =
          .spawn one first false :: spawns false (done ++ stage :: rest) := by
        cases done <;> rfl
      rw [List.cons_append, inner, same]
      simp

theorem State.isStarting_of_spawns {first : Bool} {stages : List Stage} {action : Action}
    (member : action ∈ spawns first stages) : action.isStarting = true := by
  induction stages generalizing first with
  | nil =>
      obtain rfl := List.mem_singleton.mp member
      rfl
  | cons stage stages ih =>
      cases stages with
      | nil =>
          obtain rfl | rfl : action = .spawn stage first true ∨ action = .settle := by simpa [spawns] using member
          · rfl
          · rfl
      | cons other stages =>
          rcases List.mem_cons.mp member with rfl | later
          · rfl
          · exact ih later

section

variable {host : Host} {before state : State} {files : FileSystem} {redirects : Redirects} {line : Line}
  {moves : List Move}

/-- As long as there is something to start, everything was started that was to be. -/
theorem unfailed_of_run (started : before.HasStarted) (run : Run host (before.prepared files redirects line) moves state)
    (starting : ∃ action ∈ state.conductor.agenda, action.isStarting = true) :
    (∀ move ∈ moves, move.Succeeds host) ∧
      actionsOf moves ++ state.conductor.agenda = State.spawns true line.stages := by
  induction run with
  | idle => exact ⟨fun _ member => (nomatch member), rfl⟩
  | @move moves earlier after actor run moved ih =>
      obtain ⟨orderly, others⟩ := State.orderly_of_run run (State.orderly_prepared before files redirects line)
        (State.othersStarted_prepared before files redirects line started)
      rw [actionsOf_concat]
      by_cases own : actor = .conductor
      · subst own
        obtain ⟨action, rest, planned, acted⟩ := State.act_of_conduct (State.conduct_of_move moved)
        have did : Move.action? ⟨earlier, .conductor, after⟩ = some action := by simp [Move.action?, planned]
        have absurdly (later : ∀ action ∈ after.conductor.agenda, action.isStarting = false) : False := by
          obtain ⟨action, member, starts⟩ := starting
          rw [later action member] at starts
          cases starts
        rcases orderly with ⟨_, first, stages, starts⟩ | later
        · cases stages with
          | nil =>
              obtain ⟨rfl, rfl⟩ : action = .settle ∧ rest = [] := by
                simpa [State.spawns] using planned.symm.trans starts
              cases acted
              exact (absurdly (State.later_settle host _)).elim
          | cons stage stages =>
              obtain ⟨last, split⟩ := State.spawns_cons first stage stages
              obtain ⟨rfl, rfl⟩ := List.cons.inj (planned.symm.trans (starts.trans split))
              cases State.acts_of_act acted with
              | later starting => cases starting
              | failed _ _ aborted =>
                  subst aborted
                  exact (absurdly (State.later_abort _ _)).elim
              | started _ answer launched =>
                  subst launched
                  obtain ⟨succeeded, actions⟩ := ih ⟨_, planned ▸ List.mem_cons_self, rfl⟩
                  refine ⟨?_, ?_⟩
                  · intro move member
                    rcases List.mem_append.mp member with old | new
                    · exact succeeded move old
                    · obtain rfl := List.mem_singleton.mp new
                      intro stage' first' last' agenda' _ planned'
                      obtain ⟨same, _⟩ := List.cons.inj (planned.symm.trans planned')
                      cases same
                      exact ⟨_, answer⟩
                  · rw [did, ← actions, planned, List.append_assoc]
                    rfl
        · have actionLater := later action (planned ▸ List.mem_cons_self)
          refine (absurdly ?_).elim
          rw [(State.Follows.of_act actionLater acted).agenda]
          exact fun other member => later other (planned ▸ List.mem_cons_of_mem action member)
      · have undisturbed := State.Undisturbed.move others own moved
        rw [undisturbed.conductor] at starting ⊢
        obtain ⟨succeeded, actions⟩ := ih starting
        have did : Move.action? ⟨earlier, actor, after⟩ = none := by
          cases actor with
          | conductor => exact absurd rfl own
          | reaper | process | copier | clock => rfl
        refine ⟨?_, by rw [did, Option.toList_none, List.append_nil, actions]⟩
        intro move member
        rcases List.mem_append.mp member with old | new
        · exact succeeded move old
        · obtain rfl := List.mem_singleton.mp new
          exact fun _ _ _ _ same => absurd same own

end

/-! ## The whole line -/

/-- How a line goes on after the stages `done` were started and the next one failed with
an error. -/
structure Cleanup (host : Host) (before : State) (line : Line) (done : List Stage) (error : LaunchError)
    (moves : List Move) (state : State) : Prop where
  /-- The stages before the failure were started, and no other. -/
  started : List.Forall₂ (Launch.Runs host) done (launchesOf moves)
  distinct : ((launchesOf moves).map Launch.index).Pairwise (· < ·)
  /-- Each of them has one drain. -/
  copiers : state.copiers.length = before.copiers.length + done.length
  /-- Each child is killed and then waited for once, then each drain is waited for, and
  then the error is handed back. -/
  actions : actionsOf moves ++ state.conductor.agenda = (State.spawns true line.stages).take (done.length + 1) ++
    (State.kills (childrenFor done (launchesOf moves)) ++
      (List.range' before.copiers.length done.length).map Action.join ++ [.fail error])
  reaped : ∀ child, .reap child ∈ actionsOf moves → state.Reaped child.process
  joined : ∀ number, .join number ∈ actionsOf moves → state.Joined number
  pending : state.conductor.agenda ≠ [] → state.conductor.outcome = none
  /-- In the end no child runs or has not been waited for, and no drain goes on. -/
  returned : state.conductor.agenda = [] → state.conductor.outcome = some (.error error) ∧ state.conductor.held = none ∧
    (∀ launch ∈ launchesOf moves, state.Reaped launch.index) ∧
    ∀ number, before.copiers.length ≤ number → number < state.copiers.length → state.Joined number
  /-- The thread waits at most for a drain, and a drain at most for somebody else's
  process. -/
  progress : state.killed = none → state.conductor.agenda ≠ [] →
    (∃ after, state.move host .conductor = some after) ∨
      ∃ number copier rest, state.conductor.agenda = .join number :: rest ∧ state.copiers[number]? = some copier ∧
        copier.isDone = false ∧ ((∃ after, state.move host (.copier number) = some after) ∨
          ∃ (index : Nat) (process : Process), state.processes[index]? = some process ∧
            process.writes copier.pipe = true ∧ ∀ launch ∈ launchesOf moves, launch.index ≠ index)

private theorem Chain.length_drains {host : Host} {ends : State} {stages : List Stage} {launches : List Launch}
    {drains : List (Nat × Option Sink)} {held : Option Nat} {limit : Nat}
    (chain : Chain host ends stages launches drains held limit) : drains.length = stages.length := by
  induction chain with
  | nil => rfl
  | link _ _ _ _ _ ih => simp [ih]

theorem mem_childrenFor {stages : List Stage} {launches : List Launch} {child : Child}
    (member : child ∈ childrenFor stages launches) : ∃ launch ∈ launches, child.process = launch.index := by
  rw [childrenFor, ← List.map_uncurry_zip_eq_zipWith] at member
  obtain ⟨⟨stage, launch⟩, among, rfl⟩ := List.mem_map.mp member
  exact ⟨launch, (List.of_mem_zip among).2, rfl⟩

theorem exists_childFor {stages : List Stage} {launches : List Launch} (length : stages.length = launches.length)
    {launch : Launch} (member : launch ∈ launches) :
    ∃ child ∈ childrenFor stages launches, child.process = launch.index := by
  obtain ⟨number, bound, rfl⟩ := List.mem_iff_getElem.mp member
  refine ⟨⟨(stages[number]).program, (launches[number]).index⟩, List.mem_iff_getElem?.mpr ⟨number, ?_⟩, rfl⟩
  rw [childrenFor, List.getElem?_zipWith, List.getElem?_eq_getElem (length ▸ bound), List.getElem?_eq_getElem bound]

section

variable {host : Host} {before state : State} {files : FileSystem} {redirects : Redirects} {line : Line}
  {moves : List Move} {move : Move} {stage : Stage} {failure : Failure}

/-- What a stage that cannot be started finds, and what it makes the thread do. -/
theorem aborting_of_fails (started : before.HasStarted)
    (run : Run host (before.prepared files redirects line) moves move.before)
    (moved : move.before.move host move.actor = some move.after) (fails : move.Fails host stage failure) :
    ∃ done rest, line.stages = done ++ stage :: rest ∧ List.Forall₂ (Launch.Runs host) done (launchesOf moves) ∧
      actionsOf moves ++ move.action?.toList = (State.spawns true line.stages).take (done.length + 1) ∧
      move.launches = [] ∧ move.after.OthersStarted ∧
      move.after.Aborting (childrenFor done (launchesOf moves)) before.copiers.length done.length
        (LaunchError.ofFailure stage.program failure) [] := by
  obtain ⟨earlier, actor, after⟩ := move
  obtain ⟨first, last, agenda, rfl, planned, answer⟩ := fails
  dsimp only at run moved planned answer
  have starting : ∃ action ∈ earlier.conductor.agenda, action.isStarting = true :=
    ⟨_, planned ▸ List.mem_cons_self, rfl⟩
  obtain ⟨succeeded, actions⟩ := unfailed_of_run started run starting
  have phase := (Phase.initial before files redirects line started).run
    (State.endsInFiles_prepared before files redirects line) run succeeded
  cases phase with
  | started _ _ _ none =>
      rw [planned] at none
      rcases none with settling | later
      · cases settling
      · cases later _ List.mem_cons_self
  | @starting done rest other drains split underway plan chain =>
      obtain ⟨_, cons⟩ := State.spawns_cons done.isEmpty other rest
      obtain ⟨same, rfl⟩ := List.cons.inj (planned.symm.trans (plan.trans cons))
      cases same
      obtain ⟨log, failed⟩ := State.spawn_of_error (earlier.setAgenda (State.spawns false rest)) done.isEmpty last answer
      have conducted := State.conduct_of_move moved
      rw [State.conduct, planned] at conducted
      simp only [State.act, failed, Option.some.injEq] at conducted
      subst conducted
      have copiers : earlier.copiers.length = before.copiers.length + done.length := by
        have courses := congrArg List.length underway.courses
        simpa [State.copiers_prepared, chain.length_drains] using courses
      have firstCopier : earlier.conductor.firstCopier = before.copiers.length := underway.firstCopier
      obtain ⟨_, below⟩ := increasing_of_run run
      refine ⟨done, rest, split, chain.started, ?_, ?_, underway.others, ?_⟩
      · obtain ⟨spawned, length, whole⟩ := State.spawns_append true done stage rest
        rw [← split, Bool.true_and, ← plan, planned] at whole
        have before := actions.trans whole
        rw [planned] at before
        rw [List.append_cancel_right before, whole, ← length, List.take_length_add_append]
        simp [Move.action?, planned]
      · exact Move.launches_nil fun _ => rfl
      · constructor
        case plan =>
          have joins : earlier.joins = (List.range' before.copiers.length done.length).map .join := by
            rw [State.joins_eq, firstCopier, copiers, Nat.add_sub_cancel_left]
          change State.kills earlier.conductor.children ++ earlier.joins ++ _ = _
          rw [joins, underway.children]
          rfl
        case copiers => exact copiers
        case started =>
          intro child member
          obtain ⟨launch, among, same⟩ := mem_childrenFor member
          rw [same]
          exact below launch among
        case killed => exact fun _ member => by cases member
        case reaped => exact fun _ member => by cases member
        case joined => exact fun _ member => by cases member
        case pending =>
          intro _
          obtain ⟨⟨pending, _⟩ | later, _⟩ := State.orderly_of_run run
            (State.orderly_prepared before files redirects line)
            (State.othersStarted_prepared before files redirects line started)
          · exact pending
          · cases later _ (planned ▸ List.mem_cons_self)
        case closed =>
          intro nothing
          cases (List.append_eq_nil_iff.mp nothing).2

/-- However a line is carried out, if one of its stages cannot be started, then the
stages before it were started and are cleaned up, those after it are not started, and
the error that is handed back is the one of this stage. -/
theorem cleanup_of_run (started : before.HasStarted) (run : Run host (before.prepared files redirects line) moves state)
    (member : move ∈ moves) (fails : move.Fails host stage failure) :
    (LaunchError.ofFailure stage.program failure).program = stage.program ∧
      ∃ done rest, line.stages = done ++ stage :: rest ∧
        Cleanup host before line done (LaunchError.ofFailure stage.program failure) moves state := by
  refine ⟨LaunchError.program_ofFailure _ _, ?_⟩
  obtain ⟨increasing, _⟩ := increasing_of_run run
  obtain ⟨front, back, rfl, first, moved, last⟩ := run.split member
  obtain ⟨done, rest, split, runs, tried, none, others, aborting⟩ := aborting_of_fails started first moved fails
  obtain ⟨aborting, _, nothing⟩ := aborting.run others last
  rw [List.nil_append] at aborting
  have launches : launchesOf (front ++ move :: back) = launchesOf front := by
    rw [launchesOf, List.flatMap_append, List.flatMap_cons, none]
    exact (congrArg (launchesOf front ++ ·) nothing).trans (List.append_nil _)
  have actions : actionsOf (front ++ move :: back) =
      (State.spawns true line.stages).take (done.length + 1) ++ actionsOf back := by
    rw [← tried, List.append_assoc, actionsOf_append]
    cases action : move.action? <;> simp [actionsOf, action]
  -- The actions up to the failure start stages, so the others are those of the clean-up.
  have spawning (action : Action) (among : action ∈ actionsOf (front ++ move :: back)) :
      action.isStarting = true ∨ action ∈ actionsOf back := by
    rw [actions] at among
    rcases List.mem_append.mp among with starts | later
    · exact .inl (State.isStarting_of_spawns (List.mem_of_mem_take starts))
    · exact .inr later
  refine ⟨done, rest, split, ?_⟩
  constructor
  case started => rwa [launches]
  case distinct => exact increasing
  case copiers => exact aborting.copiers
  case actions =>
    rw [actions, launches, List.append_assoc, aborting.plan]
    rfl
  case reaped =>
    intro child among
    rcases spawning _ among with starts | later
    · cases starts
    · exact aborting.reaped child later
  case joined =>
    intro number among
    rcases spawning _ among with starts | later
    · cases starts
    · exact aborting.joined number later
  case pending => exact aborting.pending
  case returned =>
    intro nothing
    obtain ⟨outcome, held⟩ := aborting.closed nothing
    have all := aborting.plan
    rw [nothing, List.append_nil] at all
    refine ⟨outcome, held, ?_, ?_⟩
    · intro launch among
      rw [launches] at among
      obtain ⟨child, childMember, same⟩ := exists_childFor runs.length_eq among
      rw [← same]
      exact aborting.reaped child (all ▸ State.reap_mem_abortion childMember _ _ _)
    · intro number low high
      rw [aborting.copiers] at high
      exact aborting.joined number (all ▸ State.join_mem_abortion low high _ _)
  case progress =>
    intro alive pending
    rcases aborting.progress alive pending with free | ⟨number, copier, more, planned, found, undone, held⟩
    · exact .inl free
    · refine .inr ⟨number, copier, more, planned, found, undone, ?_⟩
      rcases held with free | ⟨index, process, foundProcess, writes, stranger⟩
      · exact .inl free
      · refine .inr ⟨index, process, foundProcess, writes, ?_⟩
        intro launch among
        rw [launches] at among
        obtain ⟨child, childMember, same⟩ := exists_childFor runs.length_eq among
        rw [← same]
        exact stranger child childMember

end

/-- The second of three stages in the background is no program. The first one is killed in
the middle of its work, and its drain ends. -/
theorem cleanup_of_run_missing :
    let host : Host := { Host.still with
      start := fun pid _ _ => if pid = 2 then .ok (.read 0 1 fun _ => .exit .success) else .error (.os .noEntry) }
    let line : Line := { stages := [⟨["cat"]⟩, ⟨["nope"]⟩, ⟨["wc"]⟩], background := true }
    let start := (State.idle .empty .null).prepared .empty {} line
    ∃ moves state, Run host start moves state ∧ state.conductor.agenda = [] ∧
      state.processes.map (fun process => (process.status, process.waits)) = [(some (.signal 9), 1)] ∧
      ∃ done rest, line.stages = done ++ ⟨["nope"]⟩ :: rest ∧
        Cleanup host (State.idle .empty .null) line done (.executableNotFound "nope") moves state := by
  intro host line start
  have first := Run.move (Run.idle : Run host start [] start) (rfl : start.move host .conductor = some _)
  have second := first.move (rfl : State.move host _ .conductor = some _)
  have killed := second.move (rfl : State.move host _ .conductor = some _)
  have reaped := killed.move (rfl : State.move host _ .conductor = some _)
  have drained := reaped.move (rfl : State.move host _ (.copier 0) = some _)
  have joined := drained.move (rfl : State.move host _ .conductor = some _)
  have returned := joined.move (rfl : State.move host _ .conductor = some _)
  have cleanup := (cleanup_of_run (State.hasStarted_idle .empty .null) returned
    (List.mem_append_left _ (List.mem_append_left _ (List.mem_append_left _ (List.mem_append_left _
      (List.mem_append_left _ (List.mem_append_right _ (List.mem_singleton_self _)))))))
    ⟨false, false, _, rfl, rfl, rfl⟩).2
  exact ⟨_, _, returned, rfl, rfl, cleanup⟩

end Pipeline

end PipeShell
