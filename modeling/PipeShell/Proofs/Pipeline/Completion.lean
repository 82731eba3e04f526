import Mathlib
import PipeShell.Proofs.Pipeline.Catching
import PipeShell.Proofs.Pipeline.Tending

/-! # Nothing is missing at the end

A line in the foreground is handed back when all of its stages have ended and all that is
captured is in the sinks. A line in the background is handed back at once, and its thread
sees to the same things later. In whatever order the stages end and their streams run dry,
none of them is left out. -/

set_option autoImplicit false

namespace PipeShell.Pipeline

open PipeShell.System

/-! ## What is told about the stages -/

/-- The process that was started for a stage has ended with a status, and it was waited for
once. -/
def Launch.EndsAs (state : State) (launch : Launch) (status : ExitStatus) : Prop :=
  ∃ process, state.processes[launch.index]? = some process ∧ process.status = some status ∧ process.waits = 1

/-- The statuses tell for every stage, in order, its name and how the process ended that was
started for its command. -/
inductive Accounted (host : Host) (state : State) : List Stage → List Launch → List StageStatus → Prop where
  | nil : Accounted host state [] [] []
  | cons {stage : Stage} {launch : Launch} {status : ExitStatus} {stages : List Stage} {launches : List Launch}
      {statuses : List StageStatus} : launch.Runs host stage → launch.EndsAs state status →
      Accounted host state stages launches statuses →
      Accounted host state (stage :: stages) (launch :: launches) (⟨stage.program, status⟩ :: statuses)

theorem nil_or_concat_of_length_eq {Left Right : Type} {lefts : List Left} {rights : List Right}
    (length : lefts.length = rights.length) : lefts = [] ∧ rights = [] ∨
      ∃ front left others right, lefts = front ++ [left] ∧ rights = others ++ [right] ∧ front.length = others.length := by
  rcases List.eq_nil_or_concat lefts with rfl | ⟨front, left, rfl⟩
  · exact .inl ⟨rfl, List.length_eq_zero_iff.mp length.symm⟩
  · rcases List.eq_nil_or_concat rights with rfl | ⟨others, right, rfl⟩
    · simp at length
    · exact .inr ⟨front, left, others, right, List.concat_eq_append, List.concat_eq_append, by simpa using length⟩

namespace State

private theorem accounted_of_recorded {host : Host} {state : State} {stages : List Stage} {launches : List Launch}
    (started : List.Forall₂ (Launch.Runs host) stages launches) {statuses : List StageStatus}
    (recorded : statuses.map some = (childrenFor stages launches).map state.recordOf)
    (waited : ∀ child ∈ childrenFor stages launches, ∃ process status, state.processes[child.process]? = some process ∧
      process.status = some status ∧ process.waits = 1) : Accounted host state stages launches statuses := by
  induction started generalizing statuses with
  | nil =>
      obtain rfl := List.map_eq_nil_iff.mp recorded
      exact .nil
  | @cons stage launch stages launches runs _ ih =>
      cases statuses with
      | nil => cases recorded
      | cons status statuses =>
          obtain ⟨here, there⟩ := List.cons.inj recorded
          obtain ⟨process, code, found, ended, once⟩ := waited _ List.mem_cons_self
          obtain rfl : status = ⟨stage.program, code⟩ := by
            simpa [recordOf, statusOf, found, ended] using here
          exact .cons runs ⟨process, found, ended, once⟩ (ih there fun child member =>
            waited child (List.mem_cons_of_mem _ member))

/-- The number of the last child is that of the last stage's process. -/
theorem lastPid_childrenFor {host : Host} {stages : List Stage} {launches : List Launch}
    (started : List.Forall₂ (Launch.Runs host) stages launches) :
    lastPid host (childrenFor stages launches) = (launches.getLast?).elim 0 fun launch => pidOf host launch.index := by
  rcases nil_or_concat_of_length_eq started.length_eq with ⟨rfl, rfl⟩ | ⟨front, stage, others, launch, rfl, rfl, length⟩
  · rfl
  · rw [childrenFor, List.zipWith_append length]
    simp [lastPid]

/-- The sinks have taken whatever was written to the pipes that are drained into them, from
some copier on. What earlier copiers deliver may stand in between. -/
def Caught (host : Host) (first : Nat) (moves : List Move) (state : State) : Prop :=
  ∃ marked : Sink → List (Nat × UInt8), (∀ sink, state.taken sink = (marked sink).map Prod.snd) ∧
    ∀ number copier sink, first ≤ number → state.copiers[number]? = some copier → copier.sink = some sink →
      itemsOf number (marked sink) = Drain.image (pouredInto host moves copier.pipe)

private theorem Catches.caught {host : Host} {first : Nat} {moves : List Move} {state : State}
    {marked : Sink → List (Nat × UInt8)} (catches : Catches host first moves state marked)
    (joined : ∀ number, first ≤ number → number < state.copiers.length → state.Joined number) :
    state.Caught host first moves := by
  refine ⟨marked, catches.taken, fun number copier sink low found leads => ?_⟩
  obtain ⟨same, foundSame, done⟩ := joined number low (List.getElem?_eq_some_iff.mp found).1
  obtain rfl := Option.some.inj (found.symm.trans foundSame)
  exact (catches.relays number copier sink low found leads).whole done

end State

/-! ## The end of a line -/

/-- A line in the foreground is handed back with all of its statuses, and its drains are
done. -/
structure Concluded (host : Host) (before : State) (stages : List Stage) (launches : List Launch) (state : State) :
    Prop where
  statuses : ∃ statuses, state.conductor.outcome = some (.ok (.foreground statuses)) ∧
    Accounted host state stages launches statuses
  joined : ∀ number, before.copiers.length ≤ number → number < state.copiers.length → state.Joined number
  through : state.conductor.agenda = []

/-- A line in the background is handed back with the number of its last process, or zero for
want of any. However things go on, its thread is there, and when it is through, every
process has ended and was waited for once, and every drain is done. -/
structure HandedOver (host : Host) (before : State) (stages : List Stage) (launches : List Launch) (state : State) :
    Prop where
  pid : state.conductor.outcome =
    some (.ok (.background ((launches.getLast?).elim 0 fun launch => State.pidOf host launch.index)))
  zero : 0 < host.firstPid → (state.conductor.outcome = some (.ok (.background 0)) ↔ stages = [])
  later : ∀ keeper later, State.Continues .conductor state keeper later →
    ∃ thread, later.thread? keeper = some thread ∧ (thread.agenda = [] →
      (∀ launch ∈ launches, ∃ status, launch.EndsAs later status) ∧
        ∀ number, before.copiers.length ≤ number → number < state.copiers.length → later.Joined number)

section

variable {host : Host} {before state : State} {line : Line} {launches : List Launch} {duty : Duty}
  {executed : List Action}

/-- When the thread of a line is through, all processes and drains of the line have ended. -/
theorem ended_of_keeps (fits : State.Fits host before line duty state)
    (started : List.Forall₂ (Launch.Runs host) line.stages launches)
    (children : state.conductor.children = childrenFor line.stages launches) {later : State} {keeper : Actor}
    (keeps : later.Keeps duty executed keeper) {thread : Conductor} (found : later.thread? keeper = some thread)
    (through : thread.agenda = []) : (∀ launch ∈ launches, ∃ status, launch.EndsAs later status) ∧
      ∀ number, before.copiers.length ≤ number → number < state.copiers.length → later.Joined number := by
  obtain ⟨waited, joined, _, _⟩ := keeps.finished found through
  constructor
  · intro launch member
    obtain ⟨child, among, same⟩ := exists_childFor started.length_eq member
    obtain ⟨process, status, foundProcess, ended, once⟩ := waited child (fits.children.trans children ▸ among)
    exact ⟨status, process, same ▸ foundProcess, ended, once⟩
  · intro number low high
    exact joined number (fits.first ▸ low) (fits.count ▸ high)

private theorem concluded_of_keeps (fits : State.Fits host before line duty state)
    (started : List.Forall₂ (Launch.Runs host) line.stages launches)
    (children : state.conductor.children = childrenFor line.stages launches)
    (keeps : state.Keeps duty executed .conductor) (foreground : line.background = false)
    (handedBack : state.conductor.outcome ≠ none) : Concluded host before line.stages launches state := by
  obtain ⟨thread, found, attends⟩ := keeps.thread
  obtain rfl : state.conductor = thread := Option.some.inj found
  have front : duty.early = none := by rw [fits.early, foreground, if_neg Bool.false_ne_true]
  have through : state.conductor.agenda = [] := by
    by_contra more
    refine handedBack (attends.outcome.trans ?_)
    simp [Duty.outcome, front, more]
  obtain ⟨waited, _, recorded, outcome⟩ := keeps.finished found through
  rw [fits.children, children] at waited recorded
  constructor
  case statuses =>
    refine ⟨state.conductor.statuses, ?_, State.accounted_of_recorded started recorded waited⟩
    rw [outcome]
    simp [Duty.outcome, front]
  case joined => exact (ended_of_keeps fits started children keeps found through).2
  case through => exact through

/-- Processes have positive numbers, so zero stands for no process. -/
theorem lastNumber_eq_zero (started : List.Forall₂ (Launch.Runs host) line.stages launches)
    (numbered : 0 < host.firstPid) :
    ((launches.getLast?).elim 0 fun launch => State.pidOf host launch.index) = 0 ↔ line.stages = [] := by
  rcases nil_or_concat_of_length_eq started.length_eq with ⟨none, rfl⟩ | ⟨_, _, _, launch, some, rfl, _⟩
  · simp [none]
  · simp only [some, List.getLast?_concat, Option.elim_some, State.pidOf, List.append_eq_nil_iff, List.cons_ne_self,
      and_false, iff_false]
    omega

private theorem handedOver_of_keeps (fits : State.Fits host before line duty state)
    (started : List.Forall₂ (Launch.Runs host) line.stages launches)
    (children : state.conductor.children = childrenFor line.stages launches)
    (keeps : state.Keeps duty executed .conductor) (background : line.background = true) :
    HandedOver host before line.stages launches state := by
  have pid : state.conductor.outcome =
      some (.ok (.background ((launches.getLast?).elim 0 fun launch => State.pidOf host launch.index))) := by
    obtain ⟨thread, found, attends⟩ := keeps.thread
    obtain rfl : state.conductor = thread := Option.some.inj found
    have early : duty.early = some (State.lastPid host duty.children) := by rw [fits.early, background, if_pos rfl]
    rw [attends.outcome, ← State.lastPid_childrenFor started, ← children, ← fits.children]
    simp [Duty.outcome, early]
  constructor
  case pid => exact pid
  case zero =>
    intro numbered
    rw [pid, ← lastNumber_eq_zero started numbered]
    simp
  case later =>
    intro keeper later continues
    obtain ⟨_, keepsLater⟩ := keeps.continues continues
    obtain ⟨thread, found, _⟩ := keepsLater.thread
    exact ⟨thread, found, ended_of_keeps fits started children keepsLater found⟩

end

/-! ## Every order of moves -/

/-- Whatever a line's stages do, and in whatever order they end and their streams run dry:
the thread of a line all of whose stages can be started waits for nothing but their
processes and drains. A line in the foreground is handed back with the statuses of its
stages, all of them waited for once, and with everything that is captured in the sinks; a
line in the background is handed back with the number of its last process, and its thread
sees to the same things later. Either way the next line can follow. -/
theorem complete_of_run {host : Host} {before : State} {viewer : Viewer} {home : Option String} {line : Line}
    {files : FileSystem} {redirects : Redirects} (started : before.HasStarted) (mindful : before.Mindful)
    (validated : line.openTargets before.files viewer home host.directory = (files, .ok redirects)) :
    let start := before.prepared files redirects line
    (∃ moves state, Run host start moves state ∧ execute host before viewer home line = .ofState state) ∧
    ∀ moves state, Run host start moves state → (∀ move ∈ moves, move.Succeeds host) →
      (state.killed = none → state.conductor.agenda ≠ [] → (∀ launch ∈ launchesOf moves, state.Ended launch.index) →
        (∀ number, before.copiers.length ≤ number → number < state.copiers.length → state.Joined number) →
        ∃ after, state.move host .conductor = some after) ∧
      (state.conductor.outcome ≠ none →
        state.HasStarted ∧ state.Mindful ∧
        Wired host start line.stages (launchesOf moves)
          ((state.copiers.drop before.copiers.length).map Copier.course) ∧
        (line.background = false → Concluded host before line.stages (launchesOf moves) state) ∧
        (line.background = true → HandedOver host before line.stages (launchesOf moves) state) ∧
        (host.Confined → before.Contained →
          state.Contained ∧ (state.conductor.agenda = [] → state.Caught host before.copiers.length moves))) := by
  intro start
  have fitting := Line.fits_of_openTargets validated
  refine ⟨?_, fun moves state run succeeds => ?_⟩
  · obtain ⟨moves, run⟩ := exists_run_execute validated
    exact ⟨moves, _, run, execute_eq_ofState validated⟩
  have tends := (State.Tends.launching (.initial mindful started files redirects line)).run run succeeds
  cases tends with
  | launching launching =>
      -- As long as there is a stage to start, nothing is handed back and the thread can go on.
      obtain ⟨first, rest, planned⟩ := launching.agenda
      refine ⟨fun alive _ _ _ => ?_, fun handedBack => absurd launching.outcome handedBack⟩
      cases rest with
      | nil => exact State.exists_move_of_isStarting planned rfl alive
      | cons stage rest =>
          obtain ⟨last, split⟩ := State.spawns_cons first stage rest
          exact State.exists_move_of_isStarting (planned.trans split) rfl alive
  | @keeping duty executed keeps fits =>
      obtain ⟨wired, _, children, _⟩ := wired_of_run started fitting run succeeds fits.started.own
      rw [fits.firstCopier, fits.first] at wired
      constructor
      · intro alive more ended joined
        refine keeps.progress rfl more alive (fun child member => ?_) fun number low high => ?_
        · obtain ⟨launch, among, same⟩ := mem_childrenFor (fits.children.trans children ▸ member)
          exact same ▸ ended launch among
        · exact joined number (fits.first ▸ low) (fits.count ▸ high)
      · intro handedBack
        refine ⟨fits.started, (mindful.prepared files redirects line).run run, wired, ?_, ?_, ?_⟩
        · exact fun foreground => concluded_of_keeps fits wired.started children keeps foreground handedBack
        · exact handedOver_of_keeps fits wired.started children keeps
        · intro confined contained
          have ready := contained.ready started
          have reserved := (State.Reserved.initial contained files redirects line).run ready.sealed_prepared confined run
          refine ⟨reserved.toContained, fun through => ?_⟩
          obtain ⟨_, catches⟩ := State.Catches.run ready contained confined run
          exact catches.caught (ended_of_keeps fits wired.started children keeps rfl through).2

/-- A host on which the first process complains and the other ones fail. -/
def Host.complaining : Host := { Host.still with
  start := fun pid _ _ => .ok (if pid = 2 then .write 2 [33] fun _ => .exit .success else .exit (.code 3)) }

private theorem Host.confined_complaining : Host.complaining.Confined := by
  intro pid files command program started
  cases started
  split
  · exact .write fun _ => .exit
  · exact .exit

/-- The state in which the first of two stages can be started on such a host. -/
def State.complaining (background : Bool) : State :=
  (State.idle .empty .null).prepared .empty {} { stages := [⟨["tee"]⟩, ⟨["cat"]⟩], background }

/-- The second stage ends before the first one. -/
theorem exists_run_complaining (background : Bool) :
    ∃ moves state, Run Host.complaining (State.complaining background) moves state ∧ state.conductor.agenda = [] ∧
      state.complaints.toList = [33, 10] ∧ state.conductor.outcome = some (.ok
        (if background then .background 3 else .foreground [⟨"tee", .success⟩, ⟨"cat", .code 3⟩])) := by
  have followed : ∃ state, (State.complaining background).follow Host.complaining [.conductor, .conductor, .conductor,
      .process 1, .process 0, .process 0, .copier 0, .copier 0, .copier 0, .copier 0, .copier 1, .copier 2, .conductor,
      .conductor, .conductor, .conductor, .conductor, .conductor] = some state ∧ state.conductor.agenda = [] ∧
      state.complaints.toList = [33, 10] ∧ state.conductor.outcome = some (.ok
        (if background then .background 3 else .foreground [⟨"tee", .success⟩, ⟨"cat", .code 3⟩])) := by
    cases background with
    | false => exact ⟨_, rfl, rfl, rfl, rfl⟩
    | true => exact ⟨_, rfl, rfl, rfl, rfl⟩
  obtain ⟨state, followed, facts⟩ := followed
  obtain ⟨moves, run⟩ := State.exists_run_of_follow followed
  exact ⟨moves, state, run, facts⟩

/-- In the foreground the statuses come in order, and the complaint is in the sink; in the
background the second process is named, and both have been waited for in the end. -/
theorem complete_of_run_complaining :
    let before := State.idle .empty .null
    let stages : List Stage := [⟨["tee"]⟩, ⟨["cat"]⟩]
    (∃ moves state, Run Host.complaining (State.complaining false) moves state ∧
      Concluded Host.complaining before stages (launchesOf moves) state ∧
      state.conductor.outcome = some (.ok (.foreground [⟨"tee", .success⟩, ⟨"cat", .code 3⟩])) ∧
      state.Caught Host.complaining 0 moves ∧ state.complaints.toList = [33, 10]) ∧
    ∃ moves state, Run Host.complaining (State.complaining true) moves state ∧
      state.conductor.outcome = some (.ok (.background 3)) ∧
      ∀ launch ∈ launchesOf moves, ∃ status, launch.EndsAs state status := by
  intro before stages
  have mindful := State.mindful_idle .empty .null
  have started := State.hasStarted_idle .empty .null
  have validated (background : Bool) : ({ stages, background } : Line).openTargets before.files ⟨0, [], 0⟩ "/"
      Host.complaining.directory = (.empty, .ok {}) := by cbv
  have succeeds (moves : List Move) : ∀ move ∈ moves, move.Succeeds Host.complaining :=
    fun _ _ _ _ _ _ _ _ => ⟨_, rfl⟩
  constructor
  · obtain ⟨moves, state, run, through, complaints, outcome⟩ := exists_run_complaining false
    have complete := (complete_of_run started mindful (validated false)).2 moves state run (succeeds moves)
    obtain ⟨_, _, _, concluded, _, caught⟩ := complete.2 (outcome ▸ Option.some_ne_none _)
    obtain ⟨_, caught⟩ := caught Host.confined_complaining (State.contained_idle .empty .null)
    exact ⟨moves, state, run, concluded rfl, outcome, caught through, complaints⟩
  · obtain ⟨moves, state, run, through, _, outcome⟩ := exists_run_complaining true
    have complete := (complete_of_run started mindful (validated true)).2 moves state run (succeeds moves)
    obtain ⟨_, _, _, _, handedOver, _⟩ := complete.2 (outcome ▸ Option.some_ne_none _)
    obtain ⟨thread, found, ended⟩ := (handedOver rfl).later .conductor state .refl
    obtain rfl := Option.some.inj found
    exact ⟨moves, state, run, outcome, (ended through).1⟩

end PipeShell.Pipeline
