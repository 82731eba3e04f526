import PipeShell.Proofs.Pipeline.Wiring

/-! # Starting the stages of a line

The loop that starts the stages, with everybody else moving in between. Its
invariant is a chain of the stages started so far; when the last stage is started
the chain is closed, and from then on nothing about the wiring changes. -/

set_option autoImplicit false

namespace PipeShell.Pipeline

open PipeShell.System

namespace State

/-! ## One start -/

/-- Everything that starting a stage adds to the state. -/
structure Launched (before : State) (stage : Stage) (launch : Launch) (drains : List (Nat × Option Sink))
    (held : Option Nat) (after : State) : Prop where
  index : launch.index = before.processes.length
  processes : after.processes = before.processes ++ [launch.process]
  courses : after.copiers.map Copier.course = before.copiers.map Copier.course ++ drains
  conductor : after.conductor = { before.conductor with
    children := before.conductor.children ++ [⟨stage.program, launch.index⟩], held }
  reapers : after.reapers = before.reapers
  input : after.input = before.input
  output : after.output = before.output
  error : after.error = before.error
  opened : after.opened = before.opened
  killed : after.killed = before.killed

private theorem stageOutlet_outlet (pipes : List Buffer) (sink : Sink) (target : Option Port) :
    ∃ drains, Outlet pipes.length sink target (stageOutlet pipes true target).1 drains
        (stageOutlet pipes true target).2.length ∧
      (target.bind writtenPipe = none →
        (copierOf (stageOutlet pipes true target).1 sink).map Copier.course = drains) := by
  cases target with
  | none => exact ⟨[(pipes.length, some sink)], by simpa [stageOutlet] using .pipe, fun _ => rfl⟩
  | some port =>
      refine ⟨[], .file, ?_⟩
      intro file
      cases port with
      | writer pipe => cases file
      | file | reader | null => rfl

/-- Starting a stage that is not the last one makes two pipes. -/
theorem launched_inner (state : State) (stage : Stage) (program : Program) (first : Bool) :
    ∃ launch : Launch, launch.process.program = program ∧
      launch.Streams (state.stageInput first) (.writer state.pipes.length) (.writer (state.pipes.length + 1)) ∧
      (state.launch stage program first false).pipes.length = state.pipes.length + 2 ∧
      Launched state stage launch [(state.pipes.length + 1, some .error)] (some state.pipes.length)
        (state.launch stage program first false) := by
  refine ⟨⟨state.processes.length, { program, holdings := { ports := [(0, state.stageInput first),
    (1, .writer state.pipes.length), (2, .writer (state.pipes.length + 1))] } }⟩, rfl, rfl, ?_, ?_⟩
  · simp [State.launch, stageOutlet]
  · constructor <;> simp [State.launch, stageOutlet, copierOf, Copier.course]

/-- Starting the last stage makes a pipe for each stream that the line sends nowhere. -/
theorem launched_last (state : State) (stage : Stage) (program : Program) (first : Bool) (files : EndsInFiles state) :
    ∃ (launch : Launch) (output error : Port) (outputDrains errorDrains : List (Nat × Option Sink)) (next next' : Nat),
      launch.process.program = program ∧ launch.Streams (state.stageInput first) output error ∧
      Outlet state.pipes.length .output state.output output outputDrains next ∧
      Outlet next .error state.error error errorDrains next' ∧
      (state.launch stage program first true).pipes.length = next' ∧
      Launched state stage launch (errorDrains ++ outputDrains) none (state.launch stage program first true) := by
  obtain ⟨outputDrains, outputOutlet, outputCourses⟩ := stageOutlet_outlet state.pipes .output state.output
  obtain ⟨errorDrains, errorOutlet, errorCourses⟩ :=
    stageOutlet_outlet (stageOutlet state.pipes true state.output).2 .error state.error
  refine ⟨⟨state.processes.length, { program, holdings := { ports := [(0, state.stageInput first),
    (1, (stageOutlet state.pipes true state.output).1),
    (2, (stageOutlet (stageOutlet state.pipes true state.output).2 true state.error).1)] } }⟩, _, _, outputDrains,
    errorDrains, _, _, rfl, rfl, outputOutlet, errorOutlet, rfl, ?_⟩
  constructor
  case courses =>
    rw [← outputCourses files.output.2, ← errorCourses files.error.2]
    simp [State.launch]
  all_goals simp [State.launch]

theorem spawn_of_ok {host : Host} (state : State) {stage : Stage} {program : Program} (first last : Bool)
    (ok : host.start (pidOf host state.processes.length) state.files
      (host.launcher.command stage.argv host.directory) = .ok program) :
    ∃ text, state.spawn host stage first last = (state.note .debug text).launch stage program first last := by
  refine ⟨"spawning " ++ Text.quotedList stage.argv ++ " in " ++ host.directory, ?_⟩
  simp only [State.spawn]
  rw [show (state.note .debug _).processes = state.processes from rfl,
    show (state.note .debug _).files = state.files from rfl, ok]

theorem spawn_of_error {host : Host} (state : State) {stage : Stage} {failure : Failure} (first last : Bool)
    (failed : host.start (pidOf host state.processes.length) state.files
      (host.launcher.command stage.argv host.directory) = .error failure) :
    ∃ log, state.spawn host stage first last =
      { state with log }.setAgenda (state.abort (LaunchError.ofFailure stage.program failure)) := by
  simp only [State.spawn]
  rw [show (state.note .debug _).processes = state.processes from rfl,
    show (state.note .debug _).files = state.files from rfl, failed]
  exact ⟨_, rfl⟩

/-! ## One move of the thread -/

/-- What an action comes to: a stage is started or cannot be, the thread goes on to waiting,
or it is past all that. -/
inductive Acts (host : Host) (state after : State) : Action → Prop where
  | started {stage : Stage} {program : Program} {first last : Bool} (text : String) :
      host.start (pidOf host state.processes.length) state.files
        (host.launcher.command stage.argv host.directory) = .ok program →
      after = (state.note .debug text).launch stage program first last → Acts host state after (.spawn stage first last)
  | failed {stage : Stage} {failure : Failure} {first last : Bool} (log : List LogRecord) :
      host.start (pidOf host state.processes.length) state.files
        (host.launcher.command stage.argv host.directory) = .error failure →
      after = { state with log }.setAgenda (state.abort (LaunchError.ofFailure stage.program failure)) →
      Acts host state after (.spawn stage first last)
  | settled : after = state.settle host → Acts host state after .settle
  | later {action : Action} : action.isStarting = false → Acts host state after action

theorem acts_of_act {host : Host} {state after : State} {action : Action} (acted : state.act host action = some after) :
    Acts host state after action := by
  cases action with
  | spawn stage first last =>
      cases acted
      cases answer : host.start (pidOf host state.processes.length) state.files
          (host.launcher.command stage.argv host.directory) with
      | ok program =>
          obtain ⟨text, spawned⟩ := spawn_of_ok state first last answer
          exact .started text answer spawned
      | error failure =>
          obtain ⟨log, spawned⟩ := spawn_of_error state first last answer
          exact .failed log answer spawned
  | settle =>
      cases acted
      exact .settled rfl
  | kill | reap | wait | join | report | finish | fail => exact .later rfl

theorem length_processes_act {host : Host} {state after : State} {action : Action} (later : action.isStarting = false)
    (acted : state.act host action = some after) : after.processes.length = state.processes.length := by
  obtain ⟨processes, log, conductor, rfl, aged, _⟩ := act_eq later acted
  exact aged.length

theorem processes_settle (host : Host) (state : State) : (state.settle host).processes = state.processes := by
  unfold State.settle
  split <;> rfl

private theorem held_settle (host : Host) (state : State) :
    (state.settle host).conductor.held = state.conductor.held := by
  unfold State.settle
  split <;> rfl

theorem later_joins (state : State) : ∀ action ∈ state.joins, action.isStarting = false := by
  intro action member
  obtain ⟨copier, _, rfl⟩ := List.mem_map.mp member
  rfl

theorem later_settle (host : Host) (state : State) :
    ∀ action ∈ (state.settle host).conductor.agenda, action.isStarting = false := by
  intro action member
  unfold State.settle at member
  split at member
  · simp only [List.mem_append, List.mem_cons, List.mem_map] at member
    rcases member with ⟨child, _, rfl⟩ | rfl | join
    · rfl
    · rfl
    · exact later_joins state action join
  · simp only [State.setAgenda, List.mem_append, List.mem_map, List.mem_singleton] at member
    rcases member with (⟨child, _, rfl⟩ | join) | rfl
    · rfl
    · exact later_joins state action join
    · rfl

theorem spawns_cons (first : Bool) (stage : Stage) (rest : List Stage) :
    ∃ last, spawns first (stage :: rest) = .spawn stage first last :: spawns false rest := by
  cases rest with
  | nil => exact ⟨true, rfl⟩
  | cons => exact ⟨false, rfl⟩

theorem conduct_of_move {host : Host} {state after : State} (moved : state.move host .conductor = some after) :
    state.conduct host = some after := by
  unfold State.move at moved
  split at moved
  · cases moved
  · exact moved

theorem act_of_conduct {host : Host} {state after : State} (conducted : state.conduct host = some after) :
    ∃ action rest, state.conductor.agenda = action :: rest ∧ (state.setAgenda rest).act host action = some after := by
  unfold conduct at conducted
  split at conducted
  · cases conducted
  · next action rest planned => exact ⟨action, rest, planned, conducted⟩

/-- The thread can always go on starting stages, as long as the shell is alive. -/
theorem exists_move_of_isStarting {host : Host} {state : State} {action : Action} {agenda : List Action}
    (planned : state.conductor.agenda = action :: agenda) (starting : action.isStarting = true)
    (alive : state.killed = none) : ∃ after, state.move host .conductor = some after := by
  simp only [move, alive, Option.isSome_none, Bool.false_eq_true, if_false, turn, conduct, planned]
  cases action with
  | spawn stage first last => exact ⟨_, rfl⟩
  | settle => exact ⟨_, rfl⟩
  | kill | reap | wait | join | report | finish | fail => cases starting

theorem later_abort (state : State) (error : LaunchError) :
    ∀ action ∈ state.abort error, action.isStarting = false := by
  intro action member
  simp only [State.abort, List.mem_append, List.mem_flatMap, List.mem_cons, List.not_mem_nil, or_false] at member
  rcases member with (⟨child, _, rfl | rfl⟩ | join) | rfl
  · rfl
  · rfl
  · exact later_joins state action join
  · rfl

/-- What was handed back stays handed back, and no other line begins. -/
theorem act_frame {host : Host} {state after : State} {action : Action} (acted : state.act host action = some after) :
    (after.conductor.outcome = none → state.conductor.outcome = none) ∧
      ∀ reaper ∈ after.reapers, ∃ earlier ∈ state.reapers, reaper.agenda ⊆ earlier.agenda := by
  cases acts_of_act acted with
  | later starting => exact ⟨(Follows.of_act starting acted).outcome, (Undisturbed.act starting acted).reapers⟩
  | started _ _ launched =>
      rw [launched]
      exact ⟨id, Undisturbed.sameReapers rfl⟩
  | failed _ _ aborted =>
      rw [aborted]
      exact ⟨id, Undisturbed.sameReapers rfl⟩
  | settled waits =>
      rw [waits]
      unfold settle
      split
      · exact ⟨fun pending => (nomatch pending), Undisturbed.sameReapers rfl⟩
      · exact ⟨id, Undisturbed.sameReapers rfl⟩

/-- The thread is about to start the rest of its stages, or has no stage to start. -/
def Orderly (state : State) : Prop :=
  (state.conductor.outcome = none ∧ ∃ first rest, state.conductor.agenda = spawns first rest) ∨
    ∀ action ∈ state.conductor.agenda, action.isStarting = false

theorem Orderly.conduct {host : Host} {before after : State} (orderly : before.Orderly)
    (conducted : before.conduct host = some after) : after.Orderly := by
  obtain ⟨action, agenda, planned, acted⟩ := act_of_conduct conducted
  rcases orderly with ⟨pending, first, rest, starting⟩ | later
  · rw [planned] at starting
    cases rest with
    | nil =>
        obtain ⟨rfl, rfl⟩ : action = .settle ∧ agenda = [] := by simpa [spawns] using starting
        cases acted
        exact .inr (later_settle host _)
    | cons stage rest =>
        obtain ⟨last, split⟩ := spawns_cons first stage rest
        obtain ⟨rfl, rfl⟩ := List.cons.inj (starting.trans split)
        cases acts_of_act acted with
        | started _ _ launched =>
            rw [launched]
            exact .inl ⟨pending, false, rest, rfl⟩
        | failed _ _ aborted =>
            rw [aborted]
            exact .inr (later_abort _ _)
        | later starting => cases starting
  · have actionLater := later action (planned ▸ List.mem_cons_self)
    refine .inr ?_
    rw [(Follows.of_act actionLater acted).agenda]
    exact fun other member => later other (planned ▸ List.mem_cons_of_mem action member)

end State

private theorem Move.launches_eq {before after : State} {launch : Launch}
    (index : launch.index = before.processes.length) (processes : after.processes = before.processes ++ [launch.process]) :
    Move.launches ⟨before, .conductor, after⟩ = [launch] := by
  obtain ⟨number, process⟩ := launch
  obtain rfl : number = before.processes.length := index
  simp [Move.launches, processes, List.zipIdx_append]

theorem Move.launches_nil {before after : State} {actor : Actor}
    (none : actor = .conductor → after.processes.length = before.processes.length) :
    Move.launches ⟨before, actor, after⟩ = [] := by
  cases actor with
  | conductor => simp [Move.launches, none rfl]
  | reaper | process | copier | clock => rfl

/-! ## The loop -/

theorem SameEnds.of_launched {before after : State} {stage : Stage} {launch : Launch}
    {drains : List (Nat × Option Sink)} {held : Option Nat}
    (launched : State.Launched before stage launch drains held after) : SameEnds before after :=
  ⟨launched.input, launched.output, launched.error, sameOpened launched.opened⟩

theorem EndsInFiles.same {start state : State} (files : EndsInFiles start) (same : SameEnds start state) :
    EndsInFiles state where
  input := by
    rw [same.input]
    exact files.input
  output := by
    rw [same.output]
    exact files.output
  error := by
    rw [same.error]
    exact files.error

/-- The stages that were started, with their processes and drains. -/
structure Underway (start : State) (done : List Stage) (launches : List Launch) (drains : List (Nat × Option Sink))
    (state : State) : Prop where
  others : state.OthersStarted
  ends : SameEnds start state
  children : state.conductor.children = childrenFor done launches
  firstCopier : state.conductor.firstCopier = start.conductor.firstCopier
  courses : state.copiers.map Copier.course = start.copiers.map Copier.course ++ drains

namespace Underway

variable {start before after : State} {done : List Stage} {launches : List Launch} {drains : List (Nat × Option Sink)}

theorem disturb (underway : Underway start done launches drains before)
    (undisturbed : State.Undisturbed before after) : Underway start done launches drains after where
  others := undisturbed.othersStarted underway.others
  ends := underway.ends.trans undisturbed.toSameEnds
  children := by rw [undisturbed.conductor, underway.children]
  firstCopier := by rw [undisturbed.conductor, underway.firstCopier]
  courses := undisturbed.courses.trans underway.courses

private theorem launch {stage : Stage} {launch : Launch} {added : List (Nat × Option Sink)} {held : Option Nat}
    (underway : Underway start done launches drains before) (length : done.length = launches.length)
    (launched : State.Launched before stage launch added held after) :
    Underway start (done ++ [stage]) (launches ++ [launch]) (drains ++ added) after where
  others := by
    rw [State.OthersStarted, launched.reapers]
    exact underway.others
  ends := underway.ends.trans (.of_launched launched)
  children := by
    rw [launched.conductor, childrenFor, List.zipWith_append length]
    exact congrArg (· ++ _) underway.children
  firstCopier := by rw [launched.conductor, ← underway.firstCopier]
  courses := by rw [launched.courses, underway.courses, List.append_assoc]

theorem follow (underway : Underway start done launches drains before)
    (undisturbed : State.Undisturbed before { after with conductor := before.conductor })
    (children : after.conductor.children = before.conductor.children)
    (firstCopier : after.conductor.firstCopier = before.conductor.firstCopier) :
    Underway start done launches drains after :=
  have same := underway.disturb undisturbed
  ⟨same.others, ⟨same.ends.input, same.ends.output, same.ends.error, same.ends.opened⟩,
    children.trans underway.children, firstCopier.trans underway.firstCopier, same.courses⟩

theorem plan (underway : Underway start done launches drains before) (agenda : List Action) :
    Underway start done launches drains (before.setAgenda agenda) :=
  underway.follow (State.Undisturbed.refl before) rfl rfl

private theorem settle (underway : Underway start done launches drains before) (host : Host) :
    Underway start done launches drains (before.settle host) := by
  unfold State.settle
  split
  · exact (underway.disturb (State.Undisturbed.note before .info _)).follow (State.Undisturbed.refl _) rfl rfl
  · exact underway.plan _

end Underway

/-- How far the shell's thread has come with the stages of a line. -/
inductive Phase (host : Host) (start : State) (stages : List Stage) (launches : List Launch) (state : State) :
    Prop where
  | starting {done rest : List Stage} {stage : Stage} {drains : List (Nat × Option Sink)} :
      stages = done ++ stage :: rest → Underway start done launches drains state →
      state.conductor.agenda = State.spawns done.isEmpty (stage :: rest) →
      Chain host start done launches drains state.conductor.held state.pipes.length →
      Phase host start stages launches state
  | started {drains : List (Nat × Option Sink)} :
      Underway start stages launches drains state → Wired host start stages launches drains →
      state.conductor.held = none →
      state.conductor.agenda = [.settle] ∨ (∀ action ∈ state.conductor.agenda, action.isStarting = false) →
      Phase host start stages launches state

namespace Phase

variable {host : Host} {start before after : State} {stages : List Stage} {launches : List Launch}

/-- Whatever the others do, the thread stays where it is. -/
theorem disturb (phase : Phase host start stages launches before) (undisturbed : State.Undisturbed before after) :
    Phase host start stages launches after := by
  cases phase with
  | starting split underway agenda chain =>
      rw [← undisturbed.conductor] at agenda chain
      exact .starting split (underway.disturb undisturbed) agenda (chain.widen undisturbed.pipes)
  | started underway wired held agenda =>
      rw [← undisturbed.conductor] at held agenda
      exact .started (underway.disturb undisturbed) wired held agenda

private theorem stageInput_eq {done : List Stage} {drains : List (Nat × Option Sink)} {held : Option Nat} {limit : Nat}
    {state : State} (ends : SameEnds start state) (chain : Chain host start done launches drains held limit)
    (same : state.conductor.held = held) :
    state.stageInput done.isEmpty = inlet start held := by
  cases chain with
  | nil => exact ends.input
  | link =>
      rw [State.stageInput, same]
      simp [inlet]

/-- Starting a stage takes the thread to the next one, or past the last one. -/
theorem spawn {done rest : List Stage} {stage : Stage} {drains : List (Nat × Option Sink)} {program : Program}
    (files : EndsInFiles start) (split : stages = done ++ stage :: rest)
    (underway : Underway start done launches drains before)
    (agenda : before.conductor.agenda = State.spawns done.isEmpty (stage :: rest))
    (chain : Chain host start done launches drains before.conductor.held before.pipes.length)
    (ok : host.start (State.pidOf host before.processes.length) before.files
      (host.launcher.command stage.argv host.directory) = .ok program)
    (conducted : before.conduct host = some after) :
    Phase host start stages (launches ++ Move.launches ⟨before, .conductor, after⟩) after := by
  have length : done.length = launches.length := chain.started.length_eq
  cases rest with
  | nil =>
      -- The last stage reads what is held and closes the chain.
      have planned : before.conductor.agenda = [.spawn stage done.isEmpty true, .settle] := agenda
      obtain ⟨text, spawned⟩ := State.spawn_of_ok (before.setAgenda [.settle]) done.isEmpty true ok
      simp only [State.conduct, planned, State.act, spawned, Option.some.injEq] at conducted
      have underway := (underway.plan [.settle]).disturb (State.Undisturbed.note _ .debug text)
      obtain ⟨launch, output, error, outputDrains, errorDrains, next, next', runs, streams, outputOutlet, errorOutlet,
        _, launched⟩ := State.launched_last ((before.setAgenda [.settle]).note .debug text) stage program done.isEmpty
          (files.same underway.ends)
      rw [stageInput_eq underway.ends chain rfl] at streams
      rw [underway.ends.output] at outputOutlet
      rw [underway.ends.error] at errorOutlet
      rw [conducted] at launched
      have added : Move.launches ⟨before, .conductor, after⟩ = [launch] :=
        Move.launches_eq launched.index launched.processes
      rw [added, split]
      have runs : launch.Runs host stage := ⟨_, by rw [launched.index, runs]; exact ok⟩
      refine .started (underway.launch length launched) (chain.wired files runs streams outputOutlet errorOutlet) ?_ ?_
      · rw [launched.conductor]
      · rw [launched.conductor]
        exact .inl rfl
  | cons other rest =>
      -- Any other stage is one more link, and the reading end of its pipe is held.
      have planned : before.conductor.agenda =
        .spawn stage done.isEmpty false :: State.spawns false (other :: rest) := agenda
      obtain ⟨text, spawned⟩ :=
        State.spawn_of_ok (before.setAgenda (State.spawns false (other :: rest))) done.isEmpty false ok
      simp only [State.conduct, planned, State.act, spawned, Option.some.injEq] at conducted
      have underway :=
        (underway.plan (State.spawns false (other :: rest))).disturb (State.Undisturbed.note _ .debug text)
      obtain ⟨launch, runs, streams, pipes, launched⟩ := State.launched_inner
        ((before.setAgenda (State.spawns false (other :: rest))).note .debug text) stage program done.isEmpty
      rw [stageInput_eq underway.ends chain rfl] at streams
      rw [conducted] at launched pipes
      have added : Move.launches ⟨before, .conductor, after⟩ = [launch] :=
        Move.launches_eq launched.index launched.processes
      rw [added]
      have runs : launch.Runs host stage := ⟨_, by rw [launched.index, runs]; exact ok⟩
      refine .starting (show stages = (done ++ [stage]) ++ other :: rest by simp [split])
         (underway.launch length launched) ?_ ?_
      · rw [launched.conductor, show (done ++ [stage]).isEmpty = false by simp]
        rfl
      · rw [launched.conductor]
        exact chain.link (Nat.le_refl _) (Nat.le_of_eq pipes.symm) runs streams

/-- Nothing that the thread does after the last start undoes the wiring. -/
theorem settled {drains : List (Nat × Option Sink)} (underway : Underway start stages launches drains before)
    (wired : Wired host start stages launches drains) (held : before.conductor.held = none)
    (agenda : before.conductor.agenda = [.settle] ∨ ∀ action ∈ before.conductor.agenda, action.isStarting = false)
    (conducted : before.conduct host = some after) :
    Phase host start stages (launches ++ Move.launches ⟨before, .conductor, after⟩) after := by
  obtain ⟨action, rest, planned, acted⟩ := State.act_of_conduct conducted
  rw [planned] at agenda
  rcases agenda with settling | later
  · obtain ⟨rfl, rfl⟩ : action = .settle ∧ rest = [] := by simpa using settling
    cases acted
    have none : Move.launches ⟨before, .conductor, State.settle host (before.setAgenda [])⟩ = [] :=
      Move.launches_nil fun _ => congrArg List.length (State.processes_settle host (before.setAgenda []))
    rw [none, List.append_nil]
    refine .started ((underway.plan []).settle host) wired ?_ (.inr ?_)
    · exact (State.held_settle host (before.setAgenda [])).trans held
    · exact State.later_settle host (before.setAgenda [])
  · have actionLater := later action List.mem_cons_self
    have undisturbed := State.Undisturbed.act actionLater acted
    have follows := State.Follows.of_act actionLater acted
    have length : after.processes.length = (before.setAgenda rest).processes.length :=
      State.length_processes_act actionLater acted
    have none : Move.launches ⟨before, .conductor, after⟩ = [] := Move.launches_nil fun _ => length
    rw [none, List.append_nil]
    refine .started ((underway.plan rest).follow undisturbed follows.children follows.firstCopier) wired ?_ (.inr ?_)
    · rcases follows.held with same | none
      · exact same.trans held
      · exact none
    · rw [follows.agenda]
      exact fun other member => later other (List.mem_cons_of_mem action member)

private theorem conduct (files : EndsInFiles start) (phase : Phase host start stages launches before)
    (succeeds : Move.Succeeds host ⟨before, .conductor, after⟩) (conducted : before.conduct host = some after) :
    Phase host start stages (launches ++ Move.launches ⟨before, .conductor, after⟩) after := by
  cases phase with
  | starting split underway agenda chain =>
      obtain ⟨last, planned⟩ := State.spawns_cons _ _ _
      obtain ⟨program, ok⟩ := succeeds _ _ last _ rfl (agenda.trans planned)
      exact spawn files split underway agenda chain ok conducted
  | started underway wired held agenda => exact settled underway wired held agenda conducted

private theorem move (files : EndsInFiles start) (phase : Phase host start stages launches before) {actor : Actor}
    (succeeds : Move.Succeeds host ⟨before, actor, after⟩) (moved : before.move host actor = some after) :
    Phase host start stages (launches ++ Move.launches ⟨before, actor, after⟩) after := by
  by_cases own : actor = .conductor
  · subst own
    exact phase.conduct files succeeds (State.conduct_of_move moved)
  · have others : before.OthersStarted := by
      cases phase with
      | starting _ underway => exact underway.others
      | started underway => exact underway.others
    rw [Move.launches_nil fun same => absurd same own, List.append_nil]
    exact phase.disturb (State.Undisturbed.move others own moved)

/-- A run in which every stage can be started goes through the phases. -/
theorem run (files : EndsInFiles start) (phase : Phase host start stages [] start) {moves : List Move} {state : State}
    (run : Run host start moves state) (succeeds : ∀ move ∈ moves, move.Succeeds host) :
    Phase host start stages (launchesOf moves) state := by
  -- A run grows at its end, so its last move is the one that changes the phase.
  induction run with
  | idle => exact phase
  | move run moved ih =>
      rw [launchesOf_concat]
      have before := ih fun move member => succeeds move (List.mem_append_left _ member)
      exact before.move files (succeeds _ (List.mem_append_right _ (List.mem_singleton_self _))) moved

end Phase

end PipeShell.Pipeline
