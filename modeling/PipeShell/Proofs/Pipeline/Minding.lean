import PipeShell.Proofs.Pipeline.Remains
import PipeShell.Proofs.Pipeline.Starting

/-! # Whom the threads of the shell wait for

The threads of several lines go on side by side. Each of them waits for the children that
it has started itself, and no process waits for any of these, so whoever moves leaves the
children of the other threads alone. -/

set_option autoImplicit false

namespace PipeShell.Pipeline

open PipeShell.System

def Action.waitsFor? : Action → Option Nat
  | .reap child => some child.process
  | .wait child => some child.process
  | _ => none

/-- The processes that a thread waits for, now or once all its stages are started, are
among the given ones. -/
structure Conductor.Minds (allowed : Nat → Prop) (thread : Conductor) : Prop where
  agenda : ∀ action ∈ thread.agenda, ∀ index, action.waitsFor? = some index → allowed index
  children : ∀ child ∈ thread.children, allowed child.process

theorem Conductor.Minds.mono {allowed more : Nat → Prop} {thread : Conductor} (minds : thread.Minds allowed)
    (weaker : ∀ index, allowed index → more index) : thread.Minds more where
  agenda := fun action member index waits => weaker index (minds.agenda action member index waits)
  children := fun child member => weaker _ (minds.children child member)

namespace State

/-! ## Processes that are left alone -/

/-- A process that the shell has started stays a child of the shell, and nobody has waited
for it. -/
def Spares (before after : State) (index : Nat) : Prop :=
  ∀ process, before.processes[index]? = some process → process.parent = .shell →
    ∃ later, after.processes[index]? = some later ∧ later.parent = .shell ∧ later.waits = process.waits

section

variable {host : Host} {state before after : State} {index : Nat}

theorem spares_of_same (same : after.processes = before.processes) : Spares before after index :=
  fun process found own => ⟨process, same ▸ found, own, rfl⟩

theorem spares_of_stirs (stirs : Stirs before after) : Spares before after index := by
  intro process found own
  obtain ⟨later, foundLater, fate⟩ := stirs.process index process found
  exact ⟨later, foundLater, fate.own own⟩

theorem spares_countWait {child : Child} (other : child.process ≠ index) :
    Spares state (state.countWait child) index := by
  intro process found own
  refine ⟨process, ?_, own, rfl⟩
  exact (List.getElem?_modify_ne _ _ other).trans found

private theorem spares_kill (target : Nat) : Spares state (state.kill target) index := by
  unfold State.kill
  split
  · next found =>
      split
      · next running => exact spares_of_stirs (.finish found running _)
      · exact spares_of_same rfl
  · exact spares_of_same rfl

theorem spares_launch (stage : Stage) (program : Program) (first last : Bool) :
    Spares state (state.launch stage program first last) index := by
  intro process found own
  exact ⟨process, (List.getElem?_append_left (List.getElem?_eq_some_iff.mp found).1).trans found, own, rfl⟩

/-- An action of a thread leaves everybody alone but the process that it waits for. -/
theorem spares_act {action : Action} (other : action.waitsFor? ≠ some index)
    (acted : state.act host action = some after) : Spares state after index := by
  cases action with
  | spawn stage first last =>
      cases acted
      unfold State.spawn
      dsimp only
      split
      · exact spares_launch stage _ first last
      · exact spares_of_same rfl
  | settle =>
      cases acted
      exact spares_of_same (processes_settle host state)
  | kill child =>
      cases acted
      exact @spares_kill (state.note .debug _) index child.process
  | reap child =>
      obtain ⟨_, _, rfl⟩ := Option.map_eq_some_iff.mp acted
      exact spares_countWait fun same => other (congrArg some same)
  | wait child =>
      obtain ⟨_, _, rfl⟩ := Option.map_eq_some_iff.mp acted
      exact spares_countWait fun same => other (congrArg some same)
  | join copier =>
      obtain ⟨rfl, _⟩ := act_join acted
      exact spares_of_same rfl
  | report =>
      obtain ⟨log, rfl⟩ := act_report acted
      exact spares_of_same rfl
  | finish =>
      cases acted
      exact spares_of_same rfl
  | fail error =>
      cases acted
      exact spares_of_same rfl

end

/-! ## What a thread comes to wait for -/

section

variable {host : Host} {state after : State} {allowed : Nat → Prop}

theorem waitsFor?_joins (state : State) : ∀ action ∈ state.joins, action.waitsFor? = none := by
  intro action member
  obtain ⟨number, _, rfl⟩ := List.mem_map.mp member
  rfl

private theorem minds_abort (minds : state.conductor.Minds allowed) (error : LaunchError) :
    ∀ action ∈ state.abort error, ∀ index, action.waitsFor? = some index → allowed index := by
  intro action member index waits
  simp only [State.abort, List.mem_append, List.mem_flatMap, List.mem_cons, List.not_mem_nil, or_false] at member
  rcases member with (⟨child, among, rfl | rfl⟩ | join) | rfl
  · cases waits
  · cases waits
    exact minds.children child among
  · cases (waitsFor?_joins state action join).symm.trans waits
  · cases waits

private theorem minds_settle (minds : state.conductor.Minds allowed) (host : Host) :
    (state.settle host).conductor.Minds allowed := by
  have waiting (action : Action) (member : action ∈ state.conductor.children.map .wait) (index : Nat)
      (waits : action.waitsFor? = some index) : allowed index := by
    obtain ⟨child, among, rfl⟩ := List.mem_map.mp member
    cases waits
    exact minds.children child among
  have joining (action : Action) (member : action ∈ state.joins) (index : Nat)
      (waits : action.waitsFor? = some index) : allowed index :=
    nomatch (waitsFor?_joins state action member).symm.trans waits
  unfold State.settle
  split
  · refine ⟨fun action member index waits => ?_, minds.children⟩
    rcases List.mem_append.mp member with wait | rest
    · exact waiting action wait index waits
    · rcases List.mem_cons.mp rest with rfl | join
      · cases waits
      · exact joining action join index waits
  · refine ⟨fun action member index waits => ?_, minds.children⟩
    rcases List.mem_append.mp member with front | last
    · rcases List.mem_append.mp front with wait | join
      · exact waiting action wait index waits
      · exact joining action join index waits
    · obtain rfl := List.mem_singleton.mp last
      cases waits

/-- A thread only comes to wait for a process that it starts. -/
theorem minds_act {action : Action} (minds : state.conductor.Minds allowed)
    (fresh : state.processes.length < after.processes.length → allowed state.processes.length)
    (acted : state.act host action = some after) : after.conductor.Minds allowed := by
  cases acts_of_act acted with
  | later starting =>
      have follows := Follows.of_act starting acted
      exact ⟨follows.agenda ▸ minds.agenda, follows.children ▸ minds.children⟩
  | started _ _ launched =>
      rw [launched] at fresh ⊢
      refine ⟨minds.agenda, fun child member => ?_⟩
      rcases List.mem_append.mp member with old | new
      · exact minds.children child old
      · obtain rfl := List.mem_singleton.mp new
        exact fresh (by simp [State.launch, State.note])
  | failed _ _ aborted =>
      rw [aborted]
      exact ⟨minds_abort minds _, minds.children⟩
  | settled waits =>
      rw [waits]
      exact minds_settle minds host

end

/-! ## Everybody's moves -/

def thread? (state : State) : Actor → Option Conductor
  | .conductor => some state.conductor
  | .reaper number => state.reapers[number]?
  | _ => none

/-- A thread carries out what is first on its agenda. -/
structure Performs (host : Host) (before : State) (actor : Actor) (action : Action) (acted after : State) : Prop where
  thread : ∃ thread rest, before.thread? actor = some thread ∧ thread.agenda = action :: rest ∧
    { before with conductor := { thread with agenda := rest } }.act host action = some acted
  frame : after = { acted with conductor := after.conductor, reapers := after.reapers }
  self : after.thread? actor = some acted.conductor
  others : ∀ other, other ≠ actor → after.thread? other = before.thread? other
  background : after.background = before.background

variable {host : Host} {before after : State} {actor : Actor}

theorem frame_act {state : State} {action : Action} (acted : state.act host action = some after) :
    after.reapers = state.reapers ∧ after.background = state.background := by
  cases acts_of_act acted with
  | later starting =>
      obtain ⟨_, _, _, rfl, _, _⟩ := act_eq starting acted
      exact ⟨rfl, rfl⟩
  | started _ _ launched => exact launched ▸ ⟨rfl, rfl⟩
  | failed _ _ aborted => exact aborted ▸ ⟨rfl, rfl⟩
  | settled waits =>
      rw [waits]
      unfold State.settle
      split <;> exact ⟨rfl, rfl⟩

theorem thread?_of_same (conductor : after.conductor = before.conductor) (reapers : after.reapers = before.reapers)
    (other : Actor) : after.thread? other = before.thread? other := by
  cases other with
  | conductor => exact congrArg some conductor
  | reaper number => exact congrArg (·[number]?) reapers
  | process | copier | clock => rfl

theorem performs_conductor (conducted : before.conduct host = some after) :
    ∃ action, Performs host before .conductor action after after := by
  obtain ⟨action, rest, planned, acted⟩ := act_of_conduct conducted
  obtain ⟨reapers, background⟩ := frame_act acted
  refine ⟨action, ⟨_, rest, rfl, planned, acted⟩, rfl, rfl, ?_, background⟩
  intro other different
  cases other with
  | conductor => exact absurd rfl different
  | reaper number => exact congrArg (·[number]?) reapers
  | process | copier | clock => rfl

private theorem performs_reaper {number : Nat} (reaped : before.reap host number = some after) :
    ∃ action acted, Performs host before (.reaper number) action acted after := by
  unfold State.reap at reaped
  split at reaped
  · cases reaped
  · next reaper found =>
      obtain ⟨acted, conducted, rfl⟩ := Option.map_eq_some_iff.mp reaped
      obtain ⟨action, rest, planned, did⟩ := act_of_conduct conducted
      have bound := (List.getElem?_eq_some_iff.mp found).1
      refine ⟨action, acted, ⟨reaper, rest, found, planned, did⟩, rfl, List.getElem?_set_self bound, ?_,
        (frame_act did).2⟩
      intro other different
      cases other with
      | reaper another => exact List.getElem?_set_ne fun same => different (congrArg Actor.reaper same.symm)
      | conductor | process | copier | clock => rfl

/-- A move is one of a thread, or else it leaves all threads as they are and spares the
children of the shell. -/
theorem move_cases (moved : before.move host actor = some after) :
    (∃ action acted, Performs host before actor action acted after) ∨
      before.thread? actor = none ∧ (∀ other, after.thread? other = before.thread? other) ∧
        (∀ index, Spares before after index) ∧ after.background = before.background := by
  unfold State.move at moved
  split at moved
  · cases moved
  · cases actor with
    | conductor =>
        obtain ⟨action, performs⟩ := performs_conductor moved
        exact .inl ⟨action, after, performs⟩
    | reaper number => exact .inl (performs_reaper moved)
    | process index =>
        simp only [turn] at moved
        split at moved
        · next found =>
            split at moved
            · next active =>
                have stirs := Stirs.moveProcess found (Bool.and_eq_true_iff.mp active).1 moved
                refine .inr ⟨rfl, ?_, fun _ => spares_of_stirs stirs, ?_⟩
                · obtain ⟨_, _, _, _, _, rfl⟩ := stirs.frame
                  exact thread?_of_same rfl rfl
                · obtain ⟨_, _, _, _, _, rfl⟩ := stirs.frame
                  rfl
            · cases moved
        · cases moved
    | copier number =>
        simp only [turn] at moved
        split at moved
        · refine .inr ⟨rfl, ?_, fun _ => spares_of_same (copier_cases moved).1, ?_⟩
          all_goals
            unfold State.moveCopier at moved
            split at moved
            · dsimp only at moved
              split at moved <;> cases moved <;> intros <;> rfl
            · split at moved
              · cases moved
              · split at moved
                · cases moved
                · next pulled =>
                    obtain ⟨_, _, _, _, _, rfl⟩ := (Stirs.pull pulled).1.frame
                    cases moved
                    intros
                    rfl
        · cases moved
    | clock =>
        obtain ⟨moment, _, rfl⟩ := Option.map_eq_some_iff.mp moved
        exact .inr ⟨rfl, thread?_of_same rfl rfl, fun _ => spares_of_same rfl, rfl⟩

theorem background_of_move (moved : before.move host actor = some after) : after.background = before.background := by
  rcases move_cases moved with ⟨_, _, performs⟩ | ⟨_, _, _, same⟩
  · exact performs.background
  · exact same

theorem processes_of_performs {action : Action} {acted : State} (performs : Performs host before actor action acted after) :
    after.processes = acted.processes := by rw [performs.frame]

/-- The threads of earlier lines start nothing any more. -/
theorem length_processes_of_thread (started : before.OthersStarted) (other : actor ≠ .conductor)
    (thread : ∃ thread, before.thread? actor = some thread) (moved : before.move host actor = some after) :
    after.processes.length = before.processes.length := by
  rcases move_cases moved with ⟨action, acted, performs⟩ | ⟨none, _⟩
  · obtain ⟨reaper, rest, found, planned, did⟩ := performs.thread
    have member : reaper ∈ before.reapers := by
      cases actor with
      | conductor => exact absurd rfl other
      | reaper number => exact List.mem_of_getElem? found
      | process | copier | clock => cases found
    have later := started reaper member action (planned ▸ List.mem_cons_self)
    rw [processes_of_performs performs]
    exact (length_processes_act later did :)
  · obtain ⟨_, found⟩ := thread
    cases none.symm.trans found

/-- Whoever moves, a process is spared that no thread but one waits for, unless that thread
moves. -/
theorem spares_of_move {keeper : Actor} {index : Nat} (other : actor ≠ keeper)
    (others : ∀ another thread, another ≠ keeper → before.thread? another = some thread → thread.Minds (· ≠ index))
    (moved : before.move host actor = some after) : Spares before after index := by
  rcases move_cases moved with ⟨action, acted, performs⟩ | ⟨_, _, spares, _⟩
  · obtain ⟨thread, rest, found, planned, did⟩ := performs.thread
    have minds := others actor thread other found
    have elsewhere : action.waitsFor? ≠ some index := fun waits =>
      minds.agenda action (planned ▸ List.mem_cons_self) index waits rfl
    intro process foundProcess own
    rw [processes_of_performs performs]
    exact spares_act elsewhere did process foundProcess own
  · exact spares index

/-- Some threads mind certain processes only, and so they do after a move, unless one of
them starts another process. -/
theorem minds_of_move {chosen : Actor → Prop} {allowed : Nat → Prop}
    (minds : ∀ other thread, chosen other → before.thread? other = some thread → thread.Minds allowed)
    (fresh : chosen actor → (∃ thread, before.thread? actor = some thread) →
      before.processes.length < after.processes.length → allowed before.processes.length)
    (moved : before.move host actor = some after) :
    ∀ other thread, chosen other → after.thread? other = some thread → thread.Minds allowed := by
  intro other later among foundLater
  rcases move_cases moved with ⟨action, acted, performs⟩ | ⟨_, same, _, _⟩
  · by_cases here : other = actor
    · subst here
      obtain ⟨thread, rest, found, planned, did⟩ := performs.thread
      obtain rfl := Option.some.inj (performs.self.symm.trans foundLater)
      obtain ⟨agenda, children⟩ := minds other thread among found
      have fresh := fresh among ⟨thread, found⟩
      rw [processes_of_performs performs] at fresh
      have left : { thread with agenda := rest }.Minds allowed :=
        ⟨fun action member => agenda action (planned ▸ List.mem_cons_of_mem _ member), children⟩
      exact @minds_act host { before with conductor := { thread with agenda := rest } } _ _ _ left fresh did
    · exact minds other later among ((performs.others other here) ▸ foundLater)
  · exact minds other later among (same other ▸ foundLater)

/-! ## Lines that follow one another -/

/-- No thread waits for a process that there is not yet. -/
def Mindful (state : State) : Prop :=
  ∀ actor thread, state.thread? actor = some thread → thread.Minds (· < state.processes.length)

theorem mindful_idle (files : FileSystem) (input : OpenFile) : (State.idle files input).Mindful := by
  intro actor thread found
  cases actor with
  | conductor =>
      obtain rfl := Option.some.inj found
      exact ⟨fun _ member => (nomatch member), fun _ member => nomatch member⟩
  | reaper | process | copier | clock => cases found

private theorem Mindful.move (mindful : before.Mindful) (moved : before.move host actor = some after) :
    after.Mindful := by
  have more := length_processes_of_move moved
  have minds (other : Actor) (thread : Conductor) (_ : True) (found : before.thread? other = some thread) :
      thread.Minds (· < after.processes.length) :=
    (mindful other thread found).mono fun _ below => Nat.lt_of_lt_of_le below more
  exact fun other thread => minds_of_move minds (fun _ _ => id) moved other thread trivial

theorem Mindful.run {start state : State} {moves : List Move} (mindful : start.Mindful)
    (run : Run host start moves state) : state.Mindful := by
  induction run with
  | idle => exact mindful
  | move _ moved ih => exact ih.move moved

end State

end PipeShell.Pipeline
