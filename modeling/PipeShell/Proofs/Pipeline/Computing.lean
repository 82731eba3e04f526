import PipeShell.Proofs.Pipeline.Aborting
import PipeShell.Proofs.Pipeline.Flowing

/-! # Carrying out a row of stages

The shell's thread starts the stages from left to right, then waits for each of them and
for each drain, and records how the stages end. All the while the stages are at work. -/

set_option autoImplicit false

namespace PipeShell.Pipeline

open PipeShell.System

/-- The children that are started for stages if they are the first ones. -/
def offspring (stages : List Stage) : List Child := stages.mapIdx fun index stage => ⟨stage.program, index⟩

def closing (stages : List Stage) (copiers : Nat) : List Action :=
  (offspring stages).map .wait ++ (List.range copiers).map .join ++ [.finish]

theorem wait_mem_closing {stages : List Stage} {index : Nat} (bound : index < stages.length) (copiers : Nat) :
    .wait ⟨stages[index].program, index⟩ ∈ closing stages copiers := by
  have child : ⟨stages[index].program, index⟩ ∈ offspring stages := List.mem_mapIdx.mpr ⟨index, bound, rfl⟩
  exact List.mem_append_left _ (List.mem_append_left _ (List.mem_map_of_mem child))

theorem join_mem_closing (stages : List Stage) {number copiers : Nat} (bound : number < copiers) :
    .join number ∈ closing stages copiers :=
  List.mem_append_left _ (List.mem_append_right _ (List.mem_map_of_mem (List.mem_range.mpr bound)))

namespace Plan

/-- Every stage can be started, and its program does what the plan says. -/
structure Starts (plan : Plan) (host : Host) (stages : List Stage) : Prop where
  length : stages.length = plan.row.last + 1
  program : ∀ index stage, stages[index]? = some stage → ∃ program,
    host.start (State.pidOf host index) plan.files (host.launcher.command stage.argv host.directory) = .ok program ∧
      program.Yields (plan.input index) (plan.product index)

def recorded (plan : Plan) : Action → Option StageStatus
  | .wait child => some ⟨child.program, (plan.product child.process).status⟩
  | _ => none

theorem recorded_closing (plan : Plan) (stages : List Stage) (copiers : Nat) :
    (closing stages copiers).filterMap plan.recorded =
      stages.mapIdx fun index stage => ⟨stage.program, (plan.product index).status⟩ := by
  have waits : ((offspring stages).map Action.wait).filterMap plan.recorded =
      stages.mapIdx fun index stage => ⟨stage.program, (plan.product index).status⟩ := by
    rw [List.filterMap_map, offspring]
    apply List.ext_getElem?
    intro index
    rw [show plan.recorded ∘ Action.wait = fun child => some ⟨child.program, (plan.product child.process).status⟩ from rfl,
      List.filterMap_eq_map', List.getElem?_map, List.getElem?_mapIdx, List.getElem?_mapIdx, Option.map_map]
    rfl
  have joins : ((List.range copiers).map Action.join).filterMap plan.recorded = [] := by
    rw [List.filterMap_map, List.filterMap_eq_nil_iff]
    exact fun _ _ => rfl
  rw [closing, List.filterMap_append, List.filterMap_append, waits, joins, List.append_nil]
  exact List.append_nil _

end Plan

/-- The thread has carried out some of what it does after the last start. -/
structure Finishing (plan : Plan) (stages : List Stage) (executed : List Action) (state : State) : Prop where
  actions : executed ++ state.conductor.agenda = closing stages state.copiers.length
  ended : ∀ child, .wait child ∈ executed → state.Ended child.process
  joined : ∀ number, .join number ∈ executed → state.Joined number
  statuses : state.conductor.statuses = executed.filterMap plan.recorded
  pending : state.conductor.agenda ≠ [] → state.conductor.outcome = none
  closed : state.conductor.agenda = [] →
    state.conductor.outcome = some (.ok (.foreground state.conductor.statuses))

/-- How far the thread has come with the stages of a row. -/
inductive Course (plan : Plan) (stages : List Stage) (state : State) : Prop where
  | starting {done rest : List Stage} {ledger : Ledger} : stages = done ++ rest →
      Flows plan ledger done.length state → state.conductor.agenda = State.spawns done.isEmpty rest →
      state.conductor.children = offspring done → state.conductor.statuses = [] → state.conductor.firstCopier = 0 →
      state.conductor.outcome = none → Course plan stages state
  | finishing {executed : List Action} {ledger : Ledger} : Flows plan ledger stages.length state →
      Finishing plan stages executed state → Course plan stages state

namespace Flows

variable {host : Host} {plan : Plan} {ledger : Ledger} {count : Nat} {state after : State}

/-! ## The others -/

/-- Nobody waits for the time. -/
theorem wakes_eq (flows : Flows plan ledger count state) : state.wakes = [] := by
  rw [State.wakes, List.filterMap_eq_nil_iff]
  intro process member
  obtain ⟨index, found⟩ := List.mem_iff_getElem?.mp member
  obtain ⟨_, _, _, rfl⟩ := (flows.works index process found).shape
  simp

/-- A move of anybody but the thread is one of a process or of a copier. -/
theorem move (flows : Flows plan ledger count state) (proper : plan.Proper) {actor : Actor} (other : actor ≠ .conductor)
    (moved : state.move host actor = some after) :
    ∃ later, Flows plan later count after ∧ (state.Advances after ∨ state.Drains after) := by
  unfold State.move at moved
  split at moved
  · cases moved
  · cases actor with
    | conductor => exact absurd rfl other
    | reaper number =>
        simp only [State.turn, State.reap] at moved
        split at moved
        · cases moved
        · next reaper found =>
            have idle := flows.alone reaper (List.mem_of_getElem? found)
            simp [State.conduct, idle] at moved
    | process index =>
        simp only [State.turn] at moved
        split at moved
        · next process found =>
            split at moved
            · next runs =>
                obtain ⟨later, flows, advances⟩ :=
                  flows.moveProcess proper found (Bool.and_eq_true_iff.mp runs).1 moved
                exact ⟨later, flows, .inl advances⟩
            · cases moved
        · cases moved
    | copier number =>
        simp only [State.turn] at moved
        split at moved
        · next copier found =>
            obtain ⟨later, flows, drains⟩ := flows.moveCopier found moved
            exact ⟨later, flows, .inr drains⟩
        · cases moved
    | clock =>
        simp only [State.turn, State.passTime, flows.wakes_eq] at moved
        cases moved

/-! ## The thread -/

/-- Nothing is written to files before the last stage is started. -/
theorem files_eq (flows : Flows plan ledger count state) (proper : plan.Proper) (bound : count ≤ plan.row.last) :
    state.files = plan.files := by
  have unsent (sink : Sink) : plan.number sink = none ∨ ledger.sent sink = [] := by
    cases target : plan.row.target sink with
    | none => exact .inl (proper.captured sink target)
    | some slot =>
        obtain ⟨_, _, _, _, _, whole⟩ := flows.target sink slot target
        rw [(flows.later plan.row.last bound).2] at whole
        exact .inr (List.append_left_eq_self.mp whole)
  have same (files : FileSystem) (sink : Sink) : files.extendTo (plan.number sink) (ledger.sent sink) = files := by
    rcases unsent sink with nowhere | nothing
    · rw [nowhere]
      rfl
    · rw [nothing, FileSystem.extendTo_nil]
  rw [flows.files, Plan.extended, same, same]

/-- What the thread does besides starting stages leaves them at work. -/
theorem conducted (flows : Flows plan ledger count state) {conductor : Conductor} {log : List LogRecord}
    {processes : List Process} (held : conductor.held = plan.row.held count)
    (length : processes.length = state.processes.length)
    (waited : ∀ (index : Nat) (later : Process), processes[index]? = some later →
      ∃ earlier waits, state.processes[index]? = some earlier ∧ later = { earlier with waits }) :
    Flows plan ledger count { state with conductor, log, processes } where
  toCarries := { flows.toCarries with }
  killed := flows.killed
  alone := flows.alone
  ends := ⟨flows.ends.input, flows.ends.output, flows.ends.error⟩
  bounded := flows.bounded
  processes := length.trans flows.processes
  works := by
    intro index later found
    obtain ⟨earlier, waits, foundEarlier, rfl⟩ := waited index later found
    obtain ⟨⟨program, status, _, rfl⟩, running, ended, same⟩ := flows.works index earlier foundEarlier
    exact ⟨⟨program, status, waits, rfl⟩, running, ended, same⟩
  held := held
  foreground := flows.foreground

/-- The thread starts the next stage. -/
theorem launch (flows : Flows plan ledger count state) (bound : count ≤ plan.row.last) {stage : Stage}
    {program : Program} (yields : program.Yields (plan.input count) (plan.product count)) :
    Flows plan ledger (count + 1) (state.launch stage program (count = 0) (count = plan.row.last)) ∧
      (state.launch stage program (count = 0) (count = plan.row.last)).conductor = { state.conductor with
        children := state.conductor.children ++ [⟨stage.program, count⟩]
        held := plan.row.held (count + 1) } := by
  obtain ⟨unread, due⟩ := flows.later count (Nat.le_refl _)
  rw [Row.launch_eq flows.ends bound flows.processes (flows.unmade bound) flows.held stage program]
  refine ⟨?_, rfl⟩
  constructor
  case toCarries => exact flows.toCarries.launch bound _ _ _
  case killed => exact flows.killed
  case alone => exact flows.alone
  case ends => exact ⟨flows.ends.input, flows.ends.output, flows.ends.error⟩
  case bounded => exact Nat.succ_le_succ bound
  case processes =>
    rw [List.length_append, List.length_singleton, flows.processes]
  case works =>
    intro index process found
    dsimp only at found
    rcases Nat.lt_trichotomy index count with old | rfl | beyond
    · rw [List.getElem?_append_left (flows.processes.symm ▸ old)] at found
      exact flows.works index process found
    · obtain rfl : { program, holdings := plan.row.holdings index } = process := by
        simpa [flows.processes] using found
      constructor
      case shape => exact ⟨program, none, 0, rfl⟩
      case running =>
        rw [unread, due]
        exact fun _ => yields
      case ended => exact fun _ ended => nomatch ended
      case status => rw [due]
    · rw [List.getElem?_eq_none (by simp [flows.processes]; omega)] at found
      cases found
  case held => rfl
  case foreground => exact flows.foreground

end Flows

/-! ## The invariant -/

namespace Finishing

variable {host : Host} {plan : Plan} {ledger : Ledger} {stages : List Stage} {executed : List Action}
  {before after : State}

/-- What the others do leaves the thread with the same things to do. -/
theorem disturb (finishing : Finishing plan stages executed before) (same : after.conductor = before.conductor)
    (copiers : after.copiers.length = before.copiers.length) {actor : Actor}
    (moved : before.move host actor = some after) : Finishing plan stages executed after where
  actions := by
    rw [same, copiers]
    exact finishing.actions
  ended := fun child member => (finishing.ended child member).kept fun _ _ => State.process_of_move moved
  joined := by
    intro number member
    obtain ⟨copier, found, done⟩ := finishing.joined number member
    exact ⟨copier, State.copier_of_move moved found done, done⟩
  statuses := by
    rw [same]
    exact finishing.statuses
  pending := by
    rw [same]
    exact finishing.pending
  closed := by
    rw [same]
    exact finishing.closed

/-- Every action but the last waits for a child or for a copier. -/
theorem next_cases (finishing : Finishing plan stages executed before) {action : Action} {rest : List Action}
    (planned : before.conductor.agenda = action :: rest) :
    (rest ≠ [] ∧ ((∃ child ∈ offspring stages, action = .wait child) ∨
      ∃ number, number < before.copiers.length ∧ action = .join number)) ∨ rest = [] ∧ action = .finish := by
  have actions := finishing.actions
  rw [planned, closing] at actions
  rcases List.eq_nil_or_concat rest with rfl | ⟨front, last, rfl⟩
  · obtain ⟨_, same⟩ := List.append_inj' actions rfl
    exact .inr ⟨rfl, (List.cons.inj same).1⟩
  · rw [List.concat_eq_append, ← List.cons_append, ← List.append_assoc] at actions
    obtain ⟨same, _⟩ := List.append_inj' actions rfl
    have member : action ∈ (offspring stages).map Action.wait ++ (List.range before.copiers.length).map Action.join := by
      rw [← same]
      exact List.mem_append_right _ List.mem_cons_self
    refine .inl ⟨by simp, ?_⟩
    rcases List.mem_append.mp member with wait | join
    · obtain ⟨child, among, rfl⟩ := List.mem_map.mp wait
      exact .inl ⟨child, among, rfl⟩
    · obtain ⟨number, among, rfl⟩ := List.mem_map.mp join
      exact .inr ⟨number, List.mem_range.mp among, rfl⟩

/-- One more action is carried out, and what it waits for is over. -/
theorem extend (finishing : Finishing plan stages executed before) {action : Action} {rest : List Action}
    (planned : before.conductor.agenda = action :: rest) (agenda : after.conductor.agenda = rest)
    (copiers : after.copiers = before.copiers)
    (remains : ∀ (index : Nat) (earlier : Process), before.processes[index]? = some earlier →
      ∃ later, after.processes[index]? = some later ∧ earlier.Remains later)
    (ended : ∀ child, action = .wait child → before.Ended child.process)
    (joined : ∀ number, action = .join number → before.Joined number)
    (statuses : after.conductor.statuses = before.conductor.statuses ++ [action].filterMap plan.recorded)
    (pending : rest ≠ [] → after.conductor.outcome = none)
    (closed : rest = [] → after.conductor.outcome = some (.ok (.foreground after.conductor.statuses))) :
    Finishing plan stages (executed ++ [action]) after := by
  constructor
  case actions =>
    rw [agenda, copiers, ← finishing.actions, planned, List.append_assoc]
    rfl
  case ended =>
    intro child member
    rcases List.mem_append.mp member with old | new
    · exact (finishing.ended child old).kept remains
    · exact (ended child (List.mem_singleton.mp new).symm).kept remains
  case joined =>
    intro number member
    rw [State.Joined, copiers]
    rcases List.mem_append.mp member with old | new
    · exact finishing.joined number old
    · exact joined number (List.mem_singleton.mp new).symm
  case statuses => rw [statuses, finishing.statuses, List.filterMap_append]
  case pending => exact fun more => pending (agenda ▸ more)
  case closed => exact fun nothing => closed (agenda ▸ nothing)

/-- The thread carries out one more action. -/
theorem conduct (finishing : Finishing plan stages executed before) (flows : Flows plan ledger stages.length before)
    (length : stages.length = plan.row.last + 1) {action : Action} {rest : List Action}
    (planned : before.conductor.agenda = action :: rest)
    (acted : (before.setAgenda rest).act host action = some after) :
    Flows plan ledger stages.length after ∧ Finishing plan stages (executed ++ [action]) after ∧
      after.conductor.agenda = rest := by
  have free : plan.row.held stages.length = none := by simp [length, Row.held]
  have pending := finishing.pending (by simp [planned])
  have same : ∀ (index : Nat) (earlier : Process), before.processes[index]? = some earlier →
      ∃ later, before.processes[index]? = some later ∧ earlier.Remains later :=
    fun _ earlier found => ⟨earlier, found, .refl earlier⟩
  obtain ⟨more, ⟨child, _, rfl⟩ | ⟨number, bound, rfl⟩⟩ | ⟨rfl, rfl⟩ := finishing.next_cases planned
  · obtain ⟨status, asked, rfl⟩ := Option.map_eq_some_iff.mp acted
    obtain ⟨process, found, ended⟩ := Option.bind_eq_some_iff.mp asked
    have works := flows.works child.process process found
    have status_eq : status = (plan.product child.process).status := by
      rw [← works.status]
      exact (works.ended status ended).1
    refine ⟨flows.conducted flows.held (List.length_modify ..) ?_, ?_, rfl⟩
    · intro index later foundLater
      change (before.processes.modify child.process _)[index]? = some later at foundLater
      rw [List.getElem?_modify] at foundLater
      obtain ⟨earlier, foundEarlier, rfl⟩ := Option.map_eq_some_iff.mp foundLater
      split
      · exact ⟨earlier, earlier.waits + 1, foundEarlier, rfl⟩
      · exact ⟨earlier, earlier.waits, foundEarlier, rfl⟩
    · apply finishing.extend planned
      case agenda => rfl
      case copiers => rfl
      case remains => exact (State.Remains.act acted).process
      case ended =>
        intro other waits
        cases waits
        exact ⟨process, found, by simp [Process.isRunning, ended]⟩
      case joined => exact fun number joins => by cases joins
      case statuses =>
        rw [status_eq]
        rfl
      case pending => exact fun _ => pending
      case closed => exact fun nothing => absurd nothing more
  · have done : (before.setAgenda rest).Joined number := State.Aborting.joined_of_act bound acted
    obtain ⟨rfl, _⟩ := State.act_join acted
    refine ⟨flows.conducted flows.held rfl fun _ later found => ⟨later, later.waits, found, rfl⟩, ?_, rfl⟩
    apply finishing.extend planned
    case agenda => rfl
    case copiers => rfl
    case remains => exact same
    case ended => exact fun child waits => by cases waits
    case joined =>
      intro other joins
      cases joins
      exact done
    case statuses => exact (List.append_nil _).symm
    case pending => exact fun _ => pending
    case closed => exact fun nothing => absurd nothing more
  · cases acted
    refine ⟨flows.conducted free.symm rfl fun _ later found => ⟨later, later.waits, found, rfl⟩, ?_, rfl⟩
    apply finishing.extend planned
    case agenda => rfl
    case copiers => rfl
    case remains => exact same
    case ended => exact fun child waits => by cases waits
    case joined => exact fun number joins => by cases joins
    case statuses => exact (List.append_nil _).symm
    case pending => exact fun more => absurd rfl more
    case closed => exact fun _ => rfl

end Finishing

/-- A move of the thread that makes its agenda shorter, or leaves fewer stages to
start. -/
def State.Conducts (before after : State) : Prop :=
  after.conductor.agenda.countP Action.isStarting < before.conductor.agenda.countP Action.isStarting ∨
    after.conductor.agenda.countP Action.isStarting = before.conductor.agenda.countP Action.isStarting ∧
      after.conductor.agenda.length < before.conductor.agenda.length

private theorem offspring_concat (stages : List Stage) (stage : Stage) :
    offspring (stages ++ [stage]) = offspring stages ++ [⟨stage.program, stages.length⟩] := by
  simp [offspring, List.mapIdx_concat]

theorem spawns_eq (first : Bool) (stage : Stage) (rest : List Stage) :
    State.spawns first (stage :: rest) = .spawn stage first (rest = []) :: State.spawns false rest := by
  cases rest <;> rfl

private theorem countP_spawns (first : Bool) (stages : List Stage) :
    (State.spawns first stages).countP Action.isStarting = stages.length + 1 := by
  induction stages generalizing first with
  | nil => rfl
  | cons stage rest ih =>
      rw [spawns_eq, List.countP_cons, ih false]
      rfl

namespace Course

variable {host : Host} {plan : Plan} {stages : List Stage} {before after : State}

/-- Starting a stage takes the thread to the next one. -/
theorem spawn {done rest : List Stage} {stage : Stage} {ledger : Ledger} (proper : plan.Proper)
    (starts : plan.Starts host stages) (split : stages = done ++ stage :: rest)
    (flows : Flows plan ledger done.length before)
    (agenda : before.conductor.agenda = State.spawns done.isEmpty (stage :: rest))
    (children : before.conductor.children = offspring done) (statuses : before.conductor.statuses = [])
    (firstCopier : before.conductor.firstCopier = 0) (pending : before.conductor.outcome = none)
    (conducted : before.conduct host = some after) : Course plan stages after ∧ before.Conducts after := by
  have length := starts.length
  rw [split, List.length_append, List.length_cons] at length
  have bound : done.length ≤ plan.row.last := by omega
  have last : decide (rest = []) = decide (done.length = plan.row.last) := by
    rw [decide_eq_decide, ← List.length_eq_zero_iff]
    omega
  have first : done.isEmpty = decide (done.length = 0) := by
    cases done <;> simp
  obtain ⟨program, ok, yields⟩ := starts.program done.length stage (by simp [split])
  rw [← flows.files_eq proper bound] at ok
  rw [spawns_eq] at agenda
  simp only [State.conduct, agenda, State.act] at conducted
  obtain ⟨text, spawned⟩ := @State.spawn_of_ok host (before.setAgenda (State.spawns false rest)) stage program
    done.isEmpty (rest = []) (by rw [← flows.processes] at ok; exact ok)
  rw [spawned, first, last] at conducted
  have planned : Flows plan ledger done.length
      ((before.setAgenda (State.spawns false rest)).note .debug text) :=
    flows.conducted flows.held rfl fun _ later found => ⟨later, later.waits, found, rfl⟩
  obtain ⟨flowsAfter, conductor⟩ := planned.launch bound yields
  rw [Option.some.inj conducted] at flowsAfter conductor
  have started : after.conductor.agenda = State.spawns false rest := congrArg Conductor.agenda conductor
  constructor
  · have splitAfter : stages = (done ++ [stage]) ++ rest := by simp [split]
    have counted : Flows plan ledger (done ++ [stage]).length after := by
      rw [List.length_append]
      exact flowsAfter
    refine .starting splitAfter counted ?_ ?_ ?_ ?_ ?_
    · have more : (done ++ [stage]).isEmpty = false := by cases done <;> rfl
      rw [started, more]
    · rw [offspring_concat, ← children, conductor]
      rfl
    · rw [conductor]
      exact statuses
    · rw [conductor]
      exact firstCopier
    · rw [conductor]
      exact pending
  · left
    rw [started, agenda, countP_spawns, List.countP_cons, countP_spawns]
    exact Nat.lt_succ_self _

/-- After the last start the thread has everything else to do. -/
theorem settle {ledger : Ledger} (flows : Flows plan ledger stages.length before) (agenda : before.conductor.agenda = [.settle])
    (children : before.conductor.children = offspring stages) (statuses : before.conductor.statuses = [])
    (firstCopier : before.conductor.firstCopier = 0) (pending : before.conductor.outcome = none)
    (conducted : before.conduct host = some after) : Course plan stages after ∧ before.Conducts after := by
  simp only [State.conduct, agenda, State.act] at conducted
  have joins : (before.setAgenda []).joins = (List.range before.copiers.length).map .join := by
    rw [State.joins_eq, List.range_eq_range']
    simp [State.setAgenda, firstCopier]
  have settled : State.settle host (before.setAgenda []) =
      before.setAgenda (closing stages before.copiers.length) := by
    have foreground : (before.setAgenda []).background = false := flows.foreground
    have started : (before.setAgenda []).conductor.children = offspring stages := children
    rw [State.settle, foreground, joins, started]
    rfl
  rw [settled] at conducted
  obtain rfl := Option.some.inj conducted
  constructor
  · have going : Flows plan ledger stages.length (before.setAgenda (closing stages before.copiers.length)) :=
      flows.conducted flows.held rfl fun _ later found => ⟨later, later.waits, found, rfl⟩
    suffices finishing : Finishing plan stages [] (before.setAgenda (closing stages before.copiers.length)) from
      .finishing going finishing
    constructor
    case actions => rfl
    case ended => exact fun _ member => by cases member
    case joined => exact fun _ member => by cases member
    case statuses => exact statuses
    case pending => exact fun _ => pending
    case closed =>
      intro nothing
      cases (List.append_eq_nil_iff.mp nothing).2
  · left
    have later : (closing stages before.copiers.length).countP Action.isStarting = 0 := by
      simp [closing, Action.isStarting]
    rw [agenda]
    exact later ▸ Nat.zero_lt_one

/-- The thread does what is next. -/
theorem conduct (course : Course plan stages before) (proper : plan.Proper) (starts : plan.Starts host stages)
    (conducted : before.conduct host = some after) : Course plan stages after ∧ before.Conducts after := by
  cases course with
  | @starting done rest ledger split flows agenda children statuses firstCopier pending =>
      cases rest with
      | cons stage rest => exact spawn proper starts split flows agenda children statuses firstCopier pending conducted
      | nil =>
          obtain rfl : stages = done := split.trans (List.append_nil done)
          exact settle flows agenda children statuses firstCopier pending conducted
  | finishing flows finishing =>
      obtain ⟨action, rest, planned, acted⟩ := State.act_of_conduct conducted
      obtain ⟨flowsAfter, finishingAfter, agenda⟩ := finishing.conduct flows starts.length planned acted
      refine ⟨.finishing flowsAfter finishingAfter, ?_⟩
      have later : action.isStarting = false := by
        obtain ⟨_, ⟨_, _, rfl⟩ | ⟨_, _, rfl⟩⟩ | ⟨_, rfl⟩ := finishing.next_cases planned <;> rfl
      right
      rw [agenda, planned, List.countP_cons, later]
      exact ⟨rfl, Nat.lt_succ_self _⟩

/-- A move of anybody keeps the row going. -/
theorem move (course : Course plan stages before) (proper : plan.Proper) (starts : plan.Starts host stages)
    {actor : Actor} (moved : before.move host actor = some after) :
    Course plan stages after ∧ (before.Conducts after ∨ before.Advances after ∨ before.Drains after) := by
  by_cases own : actor = .conductor
  · subst own
    obtain ⟨courseAfter, conducts⟩ := course.conduct proper starts (State.conduct_of_move moved)
    exact ⟨courseAfter, .inl conducts⟩
  · cases course with
    | starting split flows agenda children statuses firstCopier pending =>
        obtain ⟨later, flowsAfter, progress⟩ := flows.move proper own moved
        have same : after.conductor = before.conductor := by
          rcases progress with advances | drains
          · exact advances.1
          · exact drains.1
        rw [← same] at agenda children statuses firstCopier pending
        exact ⟨.starting split flowsAfter agenda children statuses firstCopier pending, .inr progress⟩
    | finishing flows finishing =>
        obtain ⟨later, flowsAfter, progress⟩ := flows.move proper own moved
        have same : after.conductor = before.conductor := by
          rcases progress with advances | drains
          · exact advances.1
          · exact drains.1
        have copiers := flowsAfter.copiers.trans flows.copiers.symm
        exact ⟨.finishing flowsAfter (finishing.disturb same copiers moved), .inr progress⟩

theorem run {start state : State} {moves : List Move} (course : Course plan stages start) (proper : plan.Proper)
    (starts : plan.Starts host stages) (run : Run host start moves state) : Course plan stages state := by
  induction run with
  | idle => exact course
  | move _ moved ih => exact (ih.move proper starts moved).1

end Course

end PipeShell.Pipeline
