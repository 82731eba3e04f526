import Mathlib
import PipeShell.Proofs.Pipeline.Aborting
import PipeShell.Proofs.Pipeline.Minding

/-! # Seeing to the stages of a line

Once all stages of a line are started, its thread waits for every child in turn and for
every drain, and records how the children ended. It does so as the thread in front or,
with the line in the background, as one of the others; whoever moves in between, no child
is left out and none is waited for twice. -/

set_option autoImplicit false

namespace PipeShell.Pipeline

open PipeShell.System

/-! ## What there is to do -/

/-- What a thread has to see to when all stages of its line are started. -/
structure Duty where
  /-- The children, which are different processes. -/
  children : List Child
  distinct : (children.map Child.process).Nodup
  /-- The first copier of the line, and how many there are. -/
  first : Nat
  count : Nat
  /-- The number that was handed back at once, if the line is in the background. -/
  early : Option Nat

namespace Duty

/-- The copiers are waited for from the first to the last. -/
def joins (duty : Duty) : List Action := (List.range' duty.first duty.count).map .join

def actions (duty : Duty) : List Action :=
  match duty.early with
  | some _ => duty.children.map .wait ++ .report :: duty.joins
  | none => duty.children.map .wait ++ duty.joins ++ [.finish]

/-- What the thread has handed back when so much is left to do and some statuses are
recorded. -/
def outcome (duty : Duty) (agenda : List Action) (statuses : List StageStatus) : Option (Except LaunchError Outcome) :=
  match duty.early with
  | some pid => some (.ok (.background pid))
  | none => if agenda.isEmpty then some (.ok (.foreground statuses)) else none

variable {duty : Duty}

private theorem mem_waits {action : Action} :
    action ∈ duty.children.map Action.wait ↔ ∃ child ∈ duty.children, action = .wait child := by
  simp [eq_comm]

theorem mem_joins {action : Action} :
    action ∈ duty.joins ↔ ∃ number, duty.first ≤ number ∧ number < duty.first + duty.count ∧ action = .join number := by
  simp [joins, List.mem_range'_1, eq_comm, and_assoc]

theorem join_mem_actions {number : Nat} (low : duty.first ≤ number) (high : number < duty.first + duty.count) :
    .join number ∈ duty.actions := by
  have among : .join number ∈ duty.joins := mem_joins.mpr ⟨number, low, high, rfl⟩
  unfold actions
  split
  · exact List.mem_append_right _ (List.mem_cons_of_mem _ among)
  · exact List.mem_append_left _ (List.mem_append_right _ among)

/-- What can be the next thing to do. In the foreground, the last one hands the statuses
back. -/
theorem next_cases {executed rest : List Action} {action : Action} (split : executed ++ action :: rest = duty.actions) :
    ((duty.early = none → rest ≠ []) ∧ ((∃ child ∈ duty.children, action = .wait child) ∨
      (∃ number, duty.first ≤ number ∧ number < duty.first + duty.count ∧ action = .join number) ∨ action = .report)) ∨
    duty.early = none ∧ rest = [] ∧ action = .finish := by
  have member : action ∈ executed ++ action :: rest := List.mem_append_right _ List.mem_cons_self
  unfold actions at split
  split at split
  · next background =>
      refine .inl ⟨fun front => (nomatch front.symm.trans background), ?_⟩
      rw [split] at member
      rcases List.mem_append.mp member with wait | other
      · exact .inl (mem_waits.mp wait)
      · rcases List.mem_cons.mp other with report | join
        · exact .inr (.inr report)
        · exact .inr (.inl (mem_joins.mp join))
  · next front =>
      rcases List.eq_nil_or_concat rest with rfl | ⟨more, last, rfl⟩
      · obtain ⟨_, same⟩ := List.append_inj' split rfl
        exact .inr ⟨front, rfl, (List.cons.inj same).1⟩
      · rw [List.concat_eq_append, ← List.cons_append, ← List.append_assoc] at split
        obtain ⟨same, _⟩ := List.append_inj' split rfl
        refine .inl ⟨fun _ => by simp, ?_⟩
        have among : action ∈ duty.children.map Action.wait ++ duty.joins :=
          same ▸ List.mem_append_right _ List.mem_cons_self
        rcases List.mem_append.mp among with wait | join
        · exact .inl (mem_waits.mp wait)
        · exact .inr (.inl (mem_joins.mp join))

private theorem outcome_of_more {action : Action} {rest : List Action} (more : duty.early = none → rest ≠ [])
    (statuses later : List StageStatus) : duty.outcome rest later = duty.outcome (action :: rest) statuses := by
  unfold outcome
  split
  · rfl
  · next front => simp [more front]

theorem count_wait {child : Child} (member : child ∈ duty.children) : duty.actions.count (.wait child) = 1 := by
  have once : (duty.children.map Action.wait).count (.wait child) = 1 := by
    rw [List.count_map_of_injective _ _ fun _ _ same => Action.wait.inj same]
    exact List.count_eq_one_of_mem duty.distinct.of_map member
  have others : duty.joins.count (.wait child) = 0 := by
    rw [List.count_eq_zero]
    simp [joins]
  unfold actions
  cases duty.early with
  | none => simp [once, others]
  | some pid => simp [once, others]

end Duty

def Action.waited? : Action → Option Child
  | .wait child => some child
  | _ => none

theorem Duty.filterMap_waited?_actions (duty : Duty) : duty.actions.filterMap Action.waited? = duty.children := by
  have waits : (duty.children.map Action.wait).filterMap Action.waited? = duty.children := by
    simp [List.filterMap_map, Function.comp_def, Action.waited?]
  have joins : duty.joins.filterMap Action.waited? = [] := by
    simp [Duty.joins, List.filterMap_map, Function.comp_def, Action.waited?]
  unfold Duty.actions
  split
  · rw [List.filterMap_append, waits, List.filterMap_cons_none rfl, joins, List.append_nil]
  · rw [List.filterMap_append, List.filterMap_append, waits, joins, List.append_nil]
    exact List.append_nil _

/-! ## Having done some of it -/

namespace State

def recordOf (state : State) (child : Child) : Option StageStatus :=
  (state.statusOf child).map fun status => ⟨child.program, status⟩

/-- A thread has done some of what it has to, and every child that it has waited for has
ended. -/
structure Attends (duty : Duty) (executed : List Action) (thread : Conductor) (state : State) : Prop where
  plan : executed ++ thread.agenda = duty.actions
  child : ∀ child ∈ duty.children, ∃ process, state.processes[child.process]? = some process ∧
    process.parent = .shell ∧ process.waits = executed.count (.wait child) ∧
    (.wait child ∈ executed → process.isRunning = false)
  copiers : duty.first + duty.count ≤ state.copiers.length
  joined : ∀ number, .join number ∈ executed → state.Joined number
  statuses : thread.statuses.map some = (executed.filterMap Action.waited?).map state.recordOf
  outcome : thread.outcome = duty.outcome thread.agenda thread.statuses

namespace Attends

variable {host : Host} {duty : Duty} {executed : List Action} {thread : Conductor} {before after : State}

private theorem wait_mem {child : Child} (attends : Attends duty executed thread before)
    (waited : .wait child ∈ executed) : child ∈ duty.children := by
  rw [← duty.filterMap_waited?_actions, ← attends.plan, List.filterMap_append]
  exact List.mem_append_left _ (List.mem_filterMap.mpr ⟨_, waited, rfl⟩)

private theorem ended {child : Child} (attends : Attends duty executed thread before)
    (waited : .wait child ∈ executed) : before.Ended child.process := by
  obtain ⟨process, found, _, _, halted⟩ := attends.child child (attends.wait_mem waited)
  exact ⟨process, found, halted waited⟩

/-- The records of those who have ended do not change. -/
theorem recordOf_eq {child : Child} (ended : before.Ended child.process)
    (remains : ∀ (index : Nat) (earlier : Process), before.processes[index]? = some earlier →
      ∃ later, after.processes[index]? = some later ∧ earlier.Remains later) :
    after.recordOf child = before.recordOf child := by
  obtain ⟨earlier, found, halted⟩ := ended
  obtain ⟨later, foundLater, remains⟩ := remains child.process earlier found
  cases status : earlier.status with
  | none => simp [Process.isRunning, status] at halted
  | some code => simp [recordOf, statusOf, found, foundLater, status, remains.status code status]

theorem statuses_kept (attends : Attends duty executed thread before)
    (remains : ∀ (index : Nat) (earlier : Process), before.processes[index]? = some earlier →
      ∃ later, after.processes[index]? = some later ∧ earlier.Remains later) :
    thread.statuses.map some = (executed.filterMap Action.waited?).map after.recordOf := by
  rw [attends.statuses]
  refine List.map_congr_left fun child member => ?_
  obtain ⟨action, among, waited⟩ := List.mem_filterMap.mp member
  cases action with
  | wait child =>
      cases waited
      exact (recordOf_eq (attends.ended among) remains).symm
  | spawn | settle | kill | reap | join | report | finish | fail => cases waited

/-- What leaves the children alone leaves the thread with the same things to do. -/
theorem keep (attends : Attends duty executed thread before)
    (remains : ∀ (index : Nat) (earlier : Process), before.processes[index]? = some earlier →
      ∃ later, after.processes[index]? = some later ∧ earlier.Remains later)
    (spares : ∀ child ∈ duty.children, Spares before after child.process)
    (copiers : before.copiers.length ≤ after.copiers.length)
    (joined : ∀ number, before.Joined number → after.Joined number) : Attends duty executed thread after where
  plan := attends.plan
  child := by
    intro child member
    obtain ⟨process, found, own, waits, halted⟩ := attends.child child member
    obtain ⟨later, foundLater, ownLater, same⟩ := spares child member process found own
    refine ⟨later, foundLater, ownLater, same.trans waits, fun waited => ?_⟩
    obtain ⟨ended, foundEnded, stopped⟩ := Ended.kept remains ⟨process, found, halted waited⟩
    obtain rfl := Option.some.inj (foundLater.symm.trans foundEnded)
    exact stopped
  copiers := Nat.le_trans attends.copiers copiers
  joined := fun number member => joined number (attends.joined number member)
  statuses := attends.statuses_kept remains
  outcome := attends.outcome

/-! ### What the thread does itself -/

section Own

variable {action : Action} {rest : List Action} {later : Conductor}

theorem plan_concat (attends : Attends duty executed thread before) (planned : thread.agenda = action :: rest)
    (agenda : later.agenda = rest) : (executed ++ [action]) ++ later.agenda = duty.actions := by
  rw [agenda, ← attends.plan, planned, List.append_assoc]
  rfl

private theorem pass (attends : Attends duty executed thread before) (planned : thread.agenda = action :: rest)
    (other : action.waited? = none) (processes : after.processes = before.processes)
    (copiers : after.copiers = before.copiers) (joined : ∀ number, action = .join number → before.Joined number)
    (agenda : later.agenda = rest) (statuses : later.statuses = thread.statuses)
    (outcome : later.outcome = duty.outcome rest thread.statuses) :
    Attends duty (executed ++ [action]) later after where
  plan := attends.plan_concat planned agenda
  child := by
    intro child member
    have different : action ≠ .wait child := by
      rintro rfl
      cases other
    obtain ⟨process, found, own, waits, halted⟩ := attends.child child member
    refine ⟨process, processes ▸ found, own, ?_, fun waited => ?_⟩
    · rw [waits, List.count_append, List.count_singleton, if_neg (by simpa using different), Nat.add_zero]
    · rcases List.mem_append.mp waited with old | new
      · exact halted old
      · exact absurd (List.mem_singleton.mp new).symm different
  copiers := copiers ▸ attends.copiers
  joined := by
    intro number member
    rw [Joined, copiers]
    rcases List.mem_append.mp member with old | new
    · exact attends.joined number old
    · exact joined number (List.mem_singleton.mp new).symm
  statuses := by
    have same : (executed ++ [action]).filterMap Action.waited? = executed.filterMap Action.waited? := by
      rw [List.filterMap_append, List.filterMap_cons_none other, List.filterMap_nil, List.append_nil]
    rw [statuses, same]
    exact attends.statuses_kept fun index earlier found => ⟨earlier, processes ▸ found, .refl earlier⟩
  outcome := by rw [outcome, agenda, statuses]

private theorem wait {child : Child} {status : ExitStatus} (attends : Attends duty executed thread before)
    (planned : thread.agenda = .wait child :: rest) (among : child ∈ duty.children)
    (asked : before.statusOf child = some status) (processes : after.processes = (before.countWait child).processes)
    (copiers : after.copiers = before.copiers) (agenda : later.agenda = rest)
    (statuses : later.statuses = thread.statuses ++ [⟨child.program, status⟩])
    (outcome : later.outcome = duty.outcome rest later.statuses) :
    Attends duty (executed ++ [.wait child]) later after := by
  have remains := processes ▸ (Remains.countWait before child).process
  constructor
  case plan => exact attends.plan_concat planned agenda
  case child =>
    intro other member
    obtain ⟨process, found, own, waits, halted⟩ := attends.child other member
    by_cases same : other = child
    · subst same
      obtain ⟨ended, foundEnded, status⟩ := Option.bind_eq_some_iff.mp asked
      obtain rfl := Option.some.inj (found.symm.trans foundEnded)
      refine ⟨{ process with waits := process.waits + 1 }, ?_, own, ?_, fun _ => by simp [Process.isRunning, status]⟩
      · rw [processes, State.countWait, List.getElem?_modify_eq, found]
        rfl
      · simp [waits, List.count_append]
    · have elsewhere : child.process ≠ other.process := fun place =>
        same (List.inj_on_of_nodup_map duty.distinct member among place.symm)
      have different : ¬(Action.wait child = .wait other) := fun equal => same (Action.wait.inj equal).symm
      obtain ⟨later, foundLater, ownLater, kept⟩ := spares_countWait elsewhere process found own
      refine ⟨later, processes ▸ foundLater, ownLater, ?_, fun waited => ?_⟩
      · simp [kept, waits, List.count_append, different]
      · obtain ⟨ended, foundEnded, stopped⟩ := Ended.kept remains ⟨process, found, halted (by
          rcases List.mem_append.mp waited with old | new
          · exact old
          · exact absurd (List.mem_singleton.mp new).symm different)⟩
        obtain rfl := Option.some.inj ((processes ▸ foundLater).symm.trans foundEnded)
        exact stopped
  case copiers => exact copiers ▸ attends.copiers
  case joined =>
    intro number member
    rw [Joined, copiers]
    rcases List.mem_append.mp member with old | new
    · exact attends.joined number old
    · cases List.mem_singleton.mp new
  case statuses =>
    have record : after.recordOf child = some ⟨child.program, status⟩ := by
      rw [recordOf_eq (ended_of_statusOf asked) remains, recordOf, asked, Option.map_some]
    rw [statuses, List.map_append, attends.statuses_kept remains, List.filterMap_append, List.map_append]
    exact congrArg (_ ++ [·]) record.symm
  case outcome => rw [outcome, agenda]

end Own

private theorem agenda_of_performs {keeper : Actor} {action : Action} {acted : State}
    (attends : Attends duty executed thread before) (found : before.thread? keeper = some thread)
    (performs : Performs host before keeper action acted after) :
    ∃ rest, thread.agenda = action :: rest ∧
      { before with conductor := { thread with agenda := rest } }.act host action = some acted ∧
      acted.conductor.agenda = rest := by
  obtain ⟨same, rest, foundSame, planned, did⟩ := performs.thread
  obtain rfl := Option.some.inj (found.symm.trans foundSame)
  refine ⟨rest, planned, did, ?_⟩
  have later : action.isStarting = false := by
    have split := attends.plan
    rw [planned] at split
    rcases Duty.next_cases split with ⟨_, ⟨_, _, rfl⟩ | ⟨_, _, _, rfl⟩ | rfl⟩ | ⟨_, _, rfl⟩
    all_goals rfl
  exact (Follows.of_act later did).agenda

theorem perform {keeper : Actor} {action : Action} {acted : State} (attends : Attends duty executed thread before)
    (found : before.thread? keeper = some thread) (performs : Performs host before keeper action acted after) :
    Attends duty (executed ++ [action]) acted.conductor after := by
  obtain ⟨rest, planned, did, agenda⟩ := attends.agenda_of_performs found performs
  have processes : after.processes = acted.processes := processes_of_performs performs
  have copiers : after.copiers = acted.copiers := by rw [performs.frame]
  have split := attends.plan
  rw [planned] at split
  have handed := attends.outcome
  rw [planned] at handed
  -- It waits for a child or a copier, writes to the log, or hands the statuses back.
  rcases Duty.next_cases split with ⟨more, ⟨child, among, rfl⟩ | ⟨number, _, high, rfl⟩ | rfl⟩ | ⟨front, rfl, rfl⟩
  · obtain ⟨status, asked, rfl⟩ := Option.map_eq_some_iff.mp did
    exact attends.wait planned among asked processes copiers agenda rfl
      (handed.trans (Duty.outcome_of_more more _ _).symm)
  · have bound : number < before.copiers.length := Nat.lt_of_lt_of_le high attends.copiers
    obtain ⟨rfl, isDone⟩ := act_join did
    have joined : before.Joined number := ⟨_, List.getElem?_eq_getElem bound, isDone _ (List.getElem?_eq_getElem bound)⟩
    exact attends.pass planned rfl processes copiers (fun other same => Action.join.inj same ▸ joined) agenda rfl
      (handed.trans (Duty.outcome_of_more more _ _).symm)
  · obtain ⟨log, rfl⟩ := act_report did
    exact attends.pass planned rfl processes copiers (fun _ same => nomatch same) agenda rfl
      (handed.trans (Duty.outcome_of_more more _ _).symm)
  · cases did
    refine attends.pass planned rfl processes copiers (fun _ same => nomatch same) agenda rfl ?_
    simp [Duty.outcome, front]

end Attends

end State

end PipeShell.Pipeline
