import PipeShell.Proofs.Pipeline.Continuing

/-! # From the first start to the last wait

The thread of a line keeps account of the children that it starts. When the last stage is
started, it has exactly these to wait for, and no other thread will. -/

set_option autoImplicit false

namespace PipeShell.Pipeline

open PipeShell.System

namespace State

/-! ## While the stages are started -/

/-- The stages are being started. Nobody has waited for those that were, and none of them
is older than the line. -/
structure Launching (before : State) (line : Line) (state : State) : Prop where
  agenda : ∃ first rest, state.conductor.agenda = spawns first rest
  outcome : state.conductor.outcome = none
  statuses : state.conductor.statuses = []
  child : ∀ child ∈ state.conductor.children, ∃ process, state.processes[child.process]? = some process ∧
    process.parent = .shell ∧ process.waits = 0
  recent : ∀ child ∈ state.conductor.children, before.processes.length ≤ child.process
  distinct : (state.conductor.children.map Child.process).Nodup
  others : ∀ other thread, other ≠ .conductor → state.thread? other = some thread →
    thread.Minds (· < before.processes.length)
  started : state.OthersStarted
  firstCopier : state.conductor.firstCopier = before.copiers.length
  processes : before.processes.length ≤ state.processes.length
  copiers : before.copiers.length ≤ state.copiers.length
  background : state.background = line.background

namespace Launching

variable {host : Host} {before middle after : State} {line : Line}

theorem initial (mindful : before.Mindful) (started : before.HasStarted) (files : FileSystem) (redirects : Redirects)
    (line : Line) : Launching before line (before.prepared files redirects line) where
  agenda := ⟨true, line.stages, rfl⟩
  outcome := rfl
  statuses := rfl
  child := fun _ member => nomatch member
  recent := fun _ member => nomatch member
  distinct := .nil
  others := by
    intro other thread _ found
    rw [← processes_prepared before files redirects line]
    exact mindful.prepared files redirects line other thread found
  started := othersStarted_prepared before files redirects line started
  firstCopier := rfl
  processes := Nat.le_of_eq (congrArg List.length (processes_prepared before files redirects line)).symm
  copiers := Nat.le_of_eq (congrArg List.length (copiers_prepared before files redirects line)).symm
  background := by
    obtain ⟨_, _, _, _, same⟩ := prepared_eq before files redirects line
    rw [same]

private theorem child_lt (launching : Launching before line middle) {child : Child}
    (member : child ∈ middle.conductor.children) : child.process < middle.processes.length := by
  obtain ⟨_, found, _⟩ := launching.child child member
  exact (List.getElem?_eq_some_iff.mp found).1

private theorem disturb {actor : Actor} (launching : Launching before line middle) (other : actor ≠ .conductor)
    (moved : middle.move host actor = some after) : Launching before line after := by
  have undisturbed := Undisturbed.move launching.started other moved
  have same : after.conductor = middle.conductor := undisturbed.conductor
  constructor
  case agenda => exact same ▸ launching.agenda
  case outcome => exact same ▸ launching.outcome
  case statuses => exact same ▸ launching.statuses
  case child =>
    rw [same]
    intro child member
    obtain ⟨process, found, own, waits⟩ := launching.child child member
    have apart (another : Actor) (thread : Conductor) (elsewhere : another ≠ .conductor)
        (foundThread : middle.thread? another = some thread) : thread.Minds (· ≠ child.process) :=
      (launching.others another thread elsewhere foundThread).mono fun index old same =>
        Nat.not_lt_of_le (launching.recent child member) (same ▸ old)
    obtain ⟨later, foundLater, ownLater, sameWaits⟩ := spares_of_move other apart moved process found own
    exact ⟨later, foundLater, ownLater, sameWaits.trans waits⟩
  case recent => exact same ▸ launching.recent
  case distinct => exact same ▸ launching.distinct
  case others =>
    refine minds_of_move launching.others (fun elsewhere thread more => absurd more ?_) moved
    rw [length_processes_of_thread launching.started elsewhere thread moved]
    exact Nat.lt_irrefl _
  case started => exact undisturbed.othersStarted launching.started
  case firstCopier => exact same ▸ launching.firstCopier
  case processes => exact Nat.le_trans launching.processes undisturbed.processes
  case copiers => exact Nat.le_trans launching.copiers (length_copiers_of_move moved)
  case background => exact (background_of_move moved).trans launching.background

private theorem launch {stage : Stage} {program : Program} {first last : Bool} {rest : List Stage} {text : String}
    (launching : Launching before line middle)
    (launched : after = ((middle.setAgenda (spawns false rest)).note .debug text).launch stage program first last)
    (others : ∀ other, other ≠ .conductor → after.thread? other = middle.thread? other) :
    Launching before line after := by
  have processes : after.processes.length = middle.processes.length + 1 := by
    rw [launched]
    exact List.length_append
  have children : after.conductor.children = middle.conductor.children ++ [⟨stage.program, middle.processes.length⟩] := by
    rw [launched]
    rfl
  constructor
  case agenda => exact ⟨false, rest, launched ▸ rfl⟩
  case outcome =>
    rw [launched]
    exact launching.outcome
  case statuses =>
    rw [launched]
    exact launching.statuses
  case child =>
    intro child member
    rw [children] at member
    rcases List.mem_append.mp member with old | new
    · obtain ⟨process, found, own, waits⟩ := launching.child child old
      obtain ⟨later, foundLater, ownLater, same⟩ :=
        @spares_launch ((middle.setAgenda (spawns false rest)).note .debug text) _ stage program first last process found own
      exact ⟨later, launched ▸ foundLater, ownLater, same.trans waits⟩
    · obtain rfl := List.mem_singleton.mp new
      rw [launched]
      exact ⟨_, List.getElem?_concat_length, rfl, rfl⟩
  case recent =>
    intro child member
    rw [children] at member
    rcases List.mem_append.mp member with old | new
    · exact launching.recent child old
    · obtain rfl := List.mem_singleton.mp new
      exact launching.processes
  case distinct =>
    rw [children, List.map_append]
    refine List.nodup_append.mpr ⟨launching.distinct, List.nodup_singleton _, ?_⟩
    intro old memberOld new memberNew
    obtain ⟨child, member, rfl⟩ := List.mem_map.mp memberOld
    obtain rfl := List.mem_singleton.mp memberNew
    exact Nat.ne_of_lt (launching.child_lt member)
  case others => exact fun other thread different found =>
    launching.others other thread different (others other different ▸ found)
  case started =>
    rw [launched]
    exact launching.started
  case firstCopier =>
    rw [launched]
    exact launching.firstCopier
  case processes =>
    have := launching.processes
    omega
  case copiers =>
    rw [launched]
    simp only [State.launch, List.append_assoc, List.length_append]
    exact Nat.le_trans launching.copiers (Nat.le_add_right _ _)
  case background =>
    rw [launched]
    exact launching.background

end Launching

def lastPid (host : Host) (children : List Child) : Nat :=
  match children.getLast? with
  | some child => pidOf host child.process
  | none => 0

theorem conductor_settle (host : Host) (state : State) :
    (state.settle host).conductor =
      if state.background then { state.conductor with
        agenda := state.conductor.children.map .wait ++ .report :: state.joins
        outcome := some (.ok (.background (lastPid host state.conductor.children))) }
      else { state.conductor with agenda := state.conductor.children.map .wait ++ state.joins ++ [.finish] } := by
  unfold State.settle
  split <;> rfl

theorem copiers_settle (host : Host) (state : State) : (state.settle host).copiers = state.copiers := by
  unfold State.settle
  split <;> rfl

private theorem Launching.settle {host : Host} {before middle after : State} {line : Line}
    (launching : Launching before line middle) (settled : after = (middle.setAgenda []).settle host)
    (others : ∀ other, other ≠ .conductor → after.thread? other = middle.thread? other) :
    after.Keeps {
      children := middle.conductor.children
      distinct := launching.distinct
      first := before.copiers.length
      count := middle.copiers.length - before.copiers.length
      early := if line.background then some (lastPid host middle.conductor.children) else none } [] .conductor := by
  have processes : after.processes = middle.processes := settled ▸ processes_settle host _
  have joins : (middle.setAgenda []).joins =
      (List.range' before.copiers.length (middle.copiers.length - before.copiers.length)).map .join := by
    rw [joins_eq]
    exact congrArg (fun first => (List.range' first (middle.copiers.length - first)).map Action.join) launching.firstCopier
  have conductor := settled ▸ conductor_settle host (middle.setAgenda [])
  rw [joins, show (middle.setAgenda []).background = line.background from launching.background] at conductor
  constructor
  case thread =>
    refine ⟨after.conductor, rfl, ?_⟩
    constructor
    case plan =>
      rw [conductor]
      cases line.background <;> rfl
    case child =>
      intro child member
      obtain ⟨process, found, own, waits⟩ := launching.child child member
      exact ⟨process, processes ▸ found, own, waits, fun waited => nomatch waited⟩
    case copiers =>
      rw [settled, copiers_settle]
      exact Nat.le_of_eq (Nat.add_sub_cancel' launching.copiers)
    case joined => exact fun _ member => nomatch member
    case statuses =>
      have same : after.conductor.statuses = middle.conductor.statuses := by
        rw [conductor]
        split <;> rfl
      rw [same, launching.statuses]
      rfl
    case outcome =>
      rw [conductor]
      cases line.background with
      | true => rfl
      | false =>
          refine launching.outcome.trans ?_
          simp [Duty.outcome]
  case others =>
    intro other thread different found
    have minds := launching.others other thread different (others other different ▸ found)
    refine minds.mono fun index old child member same => ?_
    exact Nat.not_lt_of_le (launching.recent child member) (same ▸ old)

/-! ## Once they are started -/

/-- What the thread in front has to see to is all that was started for its line. -/
structure Fits (host : Host) (before : State) (line : Line) (duty : Duty) (state : State) : Prop where
  started : state.HasStarted
  children : duty.children = state.conductor.children
  first : duty.first = before.copiers.length
  firstCopier : state.conductor.firstCopier = duty.first
  count : duty.first + duty.count = state.copiers.length
  early : duty.early = if line.background then some (lastPid host duty.children) else none

/-- Once all threads have started their stages there are no new children and no new
copiers. -/
theorem Fits.move {host : Host} {before middle after : State} {line : Line} {duty : Duty} {actor : Actor}
    (fits : Fits host before line duty middle) (moved : middle.move host actor = some after) :
    Fits host before line duty after := by
  by_cases own : actor = .conductor
  · subst own
    obtain ⟨action, rest, planned, acted⟩ := act_of_conduct (conduct_of_move moved)
    have later := fits.started.own action (planned ▸ List.mem_cons_self)
    have follows := Follows.of_act later acted
    constructor
    case started =>
      refine ⟨?_, fits.started.others.kept (act_frame acted).2⟩
      rw [follows.agenda]
      exact fun other member => fits.started.own other (planned ▸ List.mem_cons_of_mem action member)
    case children => exact fits.children.trans follows.children.symm
    case first => exact fits.first
    case firstCopier => exact follows.firstCopier.trans fits.firstCopier
    case count =>
      obtain ⟨_, _, _, rfl, _, _⟩ := act_eq later acted
      exact fits.count
    case early => exact fits.early
  · have undisturbed := Undisturbed.move fits.started.others own moved
    have same : after.conductor = middle.conductor := undisturbed.conductor
    constructor
    case started => exact ⟨same ▸ fits.started.own, undisturbed.othersStarted fits.started.others⟩
    case children => exact same ▸ fits.children
    case first => exact fits.first
    case firstCopier => exact same ▸ fits.firstCopier
    case count =>
      have courses := congrArg List.length undisturbed.courses
      simp only [List.length_map] at courses
      exact fits.count.trans courses.symm
    case early => exact fits.early

/-- How far the thread has come with a line all of whose stages can be started. -/
inductive Tends (host : Host) (before : State) (line : Line) (state : State) : Prop where
  | launching : Launching before line state → Tends host before line state
  | keeping {duty : Duty} {executed : List Action} : state.Keeps duty executed .conductor →
      Fits host before line duty state → Tends host before line state

namespace Tends

variable {host : Host} {before middle after : State} {line : Line}

private theorem move {actor : Actor} (tends : Tends host before line middle)
    (succeeds : Move.Succeeds host ⟨middle, actor, after⟩) (moved : middle.move host actor = some after) :
    Tends host before line after := by
  cases tends with
  | keeping keeps fits =>
      obtain ⟨_, keeps⟩ := keeps.move moved
      exact .keeping keeps (fits.move moved)
  | launching launching =>
      by_cases own : actor = .conductor
      · subst own
        obtain ⟨_, performs⟩ := performs_conductor (conduct_of_move moved)
        obtain ⟨action, agenda, planned, acted⟩ := act_of_conduct (conduct_of_move moved)
        obtain ⟨first, stages, starting⟩ := launching.agenda
        cases stages with
        | nil =>
            obtain ⟨rfl, rfl⟩ : action = .settle ∧ agenda = [] := by simpa [spawns] using planned.symm.trans starting
            have reapers := (act_frame acted).2
            cases acted
            have same : ((middle.setAgenda []).settle host).conductor.children = middle.conductor.children ∧
                ((middle.setAgenda []).settle host).conductor.firstCopier = middle.conductor.firstCopier := by
              rw [conductor_settle]
              split <;> exact ⟨rfl, rfl⟩
            refine .keeping (launching.settle rfl performs.others) ?_
            constructor
            case started => exact ⟨later_settle host _, launching.started.kept reapers⟩
            case children => exact same.1.symm
            case first => rfl
            case firstCopier => exact same.2.trans launching.firstCopier
            case count =>
              rw [copiers_settle]
              exact Nat.add_sub_cancel' launching.copiers
            case early => rfl
        | cons stage rest =>
            obtain ⟨last, spawned⟩ := spawns_cons first stage rest
            obtain ⟨rfl, rfl⟩ := List.cons.inj (planned.symm.trans (starting.trans spawned))
            obtain ⟨program, ok⟩ := succeeds stage first last _ rfl planned
            obtain ⟨text, launched⟩ := spawn_of_ok (middle.setAgenda (spawns false rest)) first last ok
            cases acted
            exact .launching (launching.launch launched performs.others)
      · exact .launching (launching.disturb own moved)

/-- If every stage can be started, the thread of a line comes to see to all of them. -/
theorem run {start state : State} {moves : List Move} (tends : Tends host before line start)
    (run : Run host start moves state) (succeeds : ∀ move ∈ moves, move.Succeeds host) :
    Tends host before line state := by
  induction run with
  | idle => exact tends
  | move _ moved ih =>
      have earlier := ih fun move member => succeeds move (List.mem_append_left _ member)
      exact earlier.move (succeeds _ (List.mem_append_right _ (List.mem_singleton_self _))) moved

end Tends

end State

end PipeShell.Pipeline
