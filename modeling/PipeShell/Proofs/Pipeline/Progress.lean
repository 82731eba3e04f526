import PipeShell.Proofs.Pipeline.Flow

/-! # Carrying out a line never gets stuck

Until something is handed back the shell's thread starts stages, waits for them, or
kills them after a failed start; what it waits for is either over or can go on. Pipes
of any capacity will do, and so will any order of moves. -/

set_option autoImplicit false

namespace PipeShell.Pipeline

open PipeShell.System

namespace State

/-! ## What the thread has to do -/

/-- The process with an index has ended. -/
def Ended (state : State) (index : Nat) : Prop :=
  ∃ process, state.processes[index]? = some process ∧ process.isRunning = false

/-- Every stage that still runs is one of these children, and all of them were
started. -/
structure Covers (state : State) (children : List Child) : Prop where
  running : ∀ (index : Nat) (process : Process), state.processes[index]? = some process → process.isRunning = true →
    ∃ child ∈ children, child.process = index
  started : ∀ child ∈ children, child.process < state.processes.length

/-- Nothing is left but to wait for copiers and to hand something back. -/
inductive Closing : List Action → Prop where
  | finish : Closing [.finish]
  | fail {error : LaunchError} : Closing [.fail error]
  | join {copier : Nat} {rest : List Action} : Closing rest → Closing (.join copier :: rest)

def kills (children : List Child) : List Action := children.flatMap fun child => [.kill child, .reap child]

/-- What the thread does before it hands something back. -/
inductive Busy (state : State) : Prop where
  | starting {first : Bool} {rest : List Stage} : state.conductor.agenda = spawns first rest →
      state.Covers state.conductor.children → (rest = [] → state.conductor.held = none) → Busy state
  | waiting {left : List Child} {closing : List Action} : state.conductor.agenda = left.map .wait ++ closing →
      Closing closing → state.Covers left → state.conductor.held = none → Busy state
  | killing {left : List Child} {closing : List Action} : state.conductor.agenda = kills left ++ closing →
      Closing closing → state.Covers left → Busy state
  | reaping {child : Child} {left : List Child} {closing : List Action} :
      state.conductor.agenda = .reap child :: (kills left ++ closing) → Closing closing → state.Ended child.process →
      state.Covers left → Busy state

private theorem Ended.evolve {before after : State} {index : Nat} (ended : before.Ended index)
    (evolves : Evolves before after) : after.Ended index := by
  obtain ⟨process, found, halted⟩ := ended
  have bound : index < after.processes.length := by
    rw [evolves.length]
    exact (List.getElem?_eq_some_iff.mp found).1
  refine ⟨after.processes[index], List.getElem?_eq_getElem bound, ?_⟩
  obtain ⟨earlier, foundEarlier, evolved⟩ := evolves.process index _ (List.getElem?_eq_getElem bound)
  obtain rfl := Option.some.inj (found.symm.trans foundEarlier)
  cases running : (after.processes[index]).isRunning with
  | false => rfl
  | true =>
      rw [evolved.running running] at halted
      cases halted

theorem Covers.evolve {before after : State} {children : List Child} (covers : before.Covers children)
    (evolves : Evolves before after) : after.Covers children where
  running := by
    intro index process found running
    obtain ⟨earlier, foundEarlier, evolved⟩ := evolves.process index process found
    exact covers.running index earlier foundEarlier (evolved.running running)
  started := by
    intro child member
    rw [evolves.length]
    exact covers.started child member

theorem Covers.tail {state : State} {child : Child} {rest : List Child} (covers : state.Covers (child :: rest))
    (ended : state.Ended child.process) : state.Covers rest where
  running := by
    intro index process found running
    obtain ⟨other, member, same⟩ := covers.running index process found running
    rcases List.mem_cons.mp member with rfl | later
    · obtain ⟨endedProcess, foundEnded, halted⟩ := ended
      rw [same, found] at foundEnded
      cases foundEnded
      rw [running] at halted
      cases halted
    · exact ⟨other, later, same⟩
  started := fun other member => covers.started other (List.mem_cons_of_mem child member)

theorem Ended.statusOf {state : State} {child : Child} (ended : state.Ended child.process) :
    ∃ status, state.statusOf child = some status := by
  obtain ⟨process, found, halted⟩ := ended
  rw [State.statusOf, found]
  cases status : process.status with
  | none => simp [Process.isRunning, status] at halted
  | some code => exact ⟨code, status⟩

theorem ended_of_statusOf {state : State} {child : Child} {status : ExitStatus}
    (asked : state.statusOf child = some status) : state.Ended child.process := by
  obtain ⟨process, found, halted⟩ := Option.bind_eq_some_iff.mp asked
  exact ⟨process, found, by simp [Process.isRunning, halted]⟩

private theorem Busy.disturb {before after : State} (busy : before.Busy) (evolves : Evolves before after)
    (same : after.conductor = before.conductor) : after.Busy := by
  cases busy with
  | starting agenda covers held =>
      rw [← same] at agenda covers held
      exact .starting agenda (covers.evolve evolves) held
  | waiting agenda closing covers held =>
      rw [← same] at agenda held
      exact .waiting agenda closing (covers.evolve evolves) held
  | killing agenda closing covers =>
      rw [← same] at agenda
      exact .killing agenda closing (covers.evolve evolves)
  | reaping agenda closing ended covers =>
      rw [← same] at agenda
      exact .reaping agenda closing (ended.evolve evolves) (covers.evolve evolves)

/-! ## The thread alone -/

namespace Evolves

theorem planned {host : Host} {state after : State} {action : Action} {rest : List Action}
    (later : action.isStarting = false) (acted : (state.setAgenda rest).act host action = some after) :
    Evolves state after := by
  have plans : Evolves state (state.setAgenda rest) := ofProcesses rfl rfl
  exact plans.trans (act later acted)

end Evolves

theorem ended_kill {state : State} {index : Nat} (bound : index < state.processes.length) :
    (state.kill index).Ended index := by
  obtain ⟨process, found⟩ : ∃ process, state.processes[index]? = some process := ⟨_, List.getElem?_eq_getElem bound⟩
  unfold kill
  rw [found]
  dsimp only
  split
  · exact ⟨{ process with status := some (.signal killSignal) }, by simp [State.finish, found], rfl⟩
  · next halted => exact ⟨process, found, by simpa using halted⟩

/-! ## The invariant -/

/-- What holds of a line of filters whatever the thread does. -/
structure Steady (state : State) : Prop where
  alive : state.killed = none
  files : EndsInFiles state
  layered : state.Layered

/-- What holds of a line of filters until something is handed back. -/
structure Sound (state : State) : Prop extends Steady state where
  busy : state.Busy

namespace Steady

variable {before after : State}

theorem evolve (steady : before.Steady) (evolves : Evolves before after) (same : SameEnds before after)
    (pipes : before.pipes.length ≤ after.pipes.length)
    (held : ∀ pipe, after.conductor.held = some pipe → before.conductor.held = some pipe) : after.Steady where
  alive := evolves.killed.trans steady.alive
  files := steady.files.same same
  layered := steady.layered.evolve evolves pipes held

theorem plan (steady : before.Steady) (agenda : List Action) : (before.setAgenda agenda).Steady :=
  steady.evolve (.ofProcesses rfl rfl) ⟨rfl, rfl, rfl, (SameEnds.refl before).opened⟩ (Nat.le_refl _) (fun _ => id)

theorem log (steady : before.Steady) (log : List LogRecord) : { before with log }.Steady :=
  steady.evolve (.ofProcesses rfl rfl) ⟨rfl, rfl, rfl, (SameEnds.refl before).opened⟩ (Nat.le_refl _) (fun _ => id)

theorem stageInput (steady : before.Steady) (first : Bool) : writtenPipe (before.stageInput first) = none ∧
    ∀ pipe, readPipe (before.stageInput first) = some pipe → pipe < before.pipes.length := by
  unfold State.stageInput
  split
  · exact ⟨steady.files.input.2, fun pipe found => nomatch steady.files.input.1.symm.trans found⟩
  · split
    · next held =>
        refine ⟨rfl, ?_⟩
        intro pipe found
        cases found
        exact steady.layered.held _ held
    · exact ⟨rfl, fun pipe found => nomatch found⟩

variable {stage : Stage} {program : Program}

private theorem launch_inner (steady : before.Steady) (filter : program.IsFilter) (first : Bool) :
    (before.launch stage program first false).Steady := by
  obtain ⟨unwritten, reads⟩ := steady.stageInput first
  obtain ⟨launch, runs, streams, pipes, launched⟩ := launched_inner before stage program first
  refine ⟨launched.killed.trans steady.alive, steady.files.same (.of_launched launched), ?_⟩
  refine steady.layered.launch launched streams (runs ▸ filter) unwritten reads (by omega) ⟨rfl, ?_⟩ ⟨rfl, ?_⟩ ?_
  · intro pipe found
    cases found
    omega
  · intro pipe found
    cases found
    omega
  · intro pipe found
    cases found
    omega

private theorem launch_last (steady : before.Steady) (filter : program.IsFilter) (first : Bool) :
    (before.launch stage program first true).Steady := by
  obtain ⟨unwritten, reads⟩ := steady.stageInput first
  obtain ⟨launch, output, error, outputDrains, errorDrains, next, next', runs, streams, outputOutlet, errorOutlet,
    pipes, launched⟩ := launched_last before stage program first steady.files
  have outputNew := outputOutlet.writesWithin steady.files.output
  have errorNew := errorOutlet.writesWithin steady.files.error
  have le := outputOutlet.fresh.1
  have le' := errorOutlet.fresh.1
  refine ⟨launched.killed.trans steady.alive, steady.files.same (.of_launched launched), ?_⟩
  refine steady.layered.launch launched streams (runs ▸ filter) unwritten reads (by omega) ⟨outputNew.reads, ?_⟩
    ⟨errorNew.reads, ?_⟩ (fun pipe found => nomatch found)
  · intro pipe found
    have within := outputNew.writes pipe found
    omega
  · intro pipe found
    have within := errorNew.writes pipe found
    omega

end Steady

private theorem Covers.launch {before after : State} {stage : Stage} {launch : Launch}
    {drains : List (Nat × Option Sink)} {held : Option Nat} (covers : before.Covers before.conductor.children)
    (launched : Launched before stage launch drains held after) : after.Covers after.conductor.children where
  running := by
    intro index process found running
    rw [launched.conductor]
    rcases launched.process_cases found with ⟨earlier, _⟩ | ⟨rfl, _⟩
    · obtain ⟨child, member, same⟩ := covers.running index process earlier running
      exact ⟨child, List.mem_append_left _ member, same⟩
    · exact ⟨⟨stage.program, launch.index⟩, List.mem_append_right _ (List.mem_singleton_self _), rfl⟩
  started := by
    intro child member
    rw [launched.conductor] at member
    rw [launched.processes, List.length_append, List.length_singleton]
    rcases List.mem_append.mp member with earlier | new
    · exact Nat.lt_succ_of_lt (covers.started child earlier)
    · obtain rfl := List.mem_singleton.mp new
      rw [launched.index]
      exact Nat.lt_succ_self _

namespace Sound

variable {host : Host} {before after : State}

private theorem disturb (sound : before.Sound) (undisturbed : Undisturbed before after)
    (evolves : Evolves before after) : after.Sound where
  toSteady := sound.evolve evolves undisturbed.toSameEnds undisturbed.pipes fun _ held =>
    undisturbed.conductor ▸ held
  busy := sound.busy.disturb evolves undisturbed.conductor

/-- What the thread does after the last start keeps everything but its own plans. -/
theorem act {rest : List Action} {action : Action} (sound : before.Sound) (later : action.isStarting = false)
    (acted : (before.setAgenda rest).act host action = some after) (busy : after.Busy) : after.Sound := by
  have undisturbed := Undisturbed.act later acted
  have same : SameEnds before after := { undisturbed.toSameEnds with }
  refine ⟨sound.evolve (.planned later acted) same undisturbed.pipes ?_, busy⟩
  intro pipe held
  rcases (Follows.of_act later acted).held with same | none
  · exact same.symm.trans held
  · cases none.symm.trans held

theorem close {rest : List Action} {action : Action} (sound : before.Sound) (closes : Closing (action :: rest))
    (covers : before.Covers []) (acted : (before.setAgenda rest).act host action = some after)
    (pending : after.conductor.outcome = none) : after.Sound := by
  cases closes with
  | finish =>
      cases acted
      cases pending
  | fail =>
      cases acted
      cases pending
  | @join copier _ closes =>
      have evolves := Evolves.planned rfl acted
      refine sound.act rfl acted (.killing ?_ closes (covers.evolve evolves))
      exact (Follows.of_act rfl acted).agenda

private theorem wait {left : List Child} {closing rest : List Action} {action : Action} (sound : before.Sound)
    (split : action :: rest = left.map .wait ++ closing) (closes : Closing closing) (covers : before.Covers left)
    (held : before.conductor.held = none) (acted : (before.setAgenda rest).act host action = some after)
    (pending : after.conductor.outcome = none) : after.Sound := by
  cases left with
  | nil =>
      obtain rfl : action :: rest = closing := split
      exact sound.close closes covers acted pending
  | cons child left =>
      obtain ⟨rfl, rfl⟩ : action = .wait child ∧ rest = left.map .wait ++ closing := by simpa using split
      have follows := Follows.of_act rfl acted
      obtain ⟨status, asked, _⟩ := Option.map_eq_some_iff.mp acted
      have ended : before.Ended child.process := ended_of_statusOf asked
      refine sound.act rfl acted (.waiting follows.agenda closes ((covers.tail ended).evolve (.planned rfl acted)) ?_)
      rcases follows.held with same | none
      · exact same.trans held
      · exact none

private theorem kill {left : List Child} {closing rest : List Action} {action : Action} (sound : before.Sound)
    (split : action :: rest = kills left ++ closing) (closes : Closing closing) (covers : before.Covers left)
    (acted : (before.setAgenda rest).act host action = some after) (pending : after.conductor.outcome = none) :
    after.Sound := by
  cases left with
  | nil =>
      obtain rfl : action :: rest = closing := split
      exact sound.close closes covers acted pending
  | cons child left =>
      obtain ⟨rfl, rfl⟩ : action = .kill child ∧ rest = .reap child :: (kills left ++ closing) := by
        simpa [kills] using split
      have evolves := Evolves.planned rfl acted
      have ended : after.Ended child.process := by
        cases acted
        exact ended_kill (covers.started child List.mem_cons_self)
      exact sound.act rfl acted
        (.reaping (Follows.of_act rfl acted).agenda closes ended ((covers.evolve evolves).tail ended))

private theorem reap {child : Child} {left : List Child} {closing rest : List Action} {action : Action}
    (sound : before.Sound) (split : action :: rest = .reap child :: (kills left ++ closing)) (closes : Closing closing)
    (covers : before.Covers left) (acted : (before.setAgenda rest).act host action = some after) : after.Sound := by
  obtain ⟨rfl, rfl⟩ : action = .reap child ∧ rest = kills left ++ closing := by simpa using split
  exact sound.act rfl acted
    (.killing (Follows.of_act rfl acted).agenda closes (covers.evolve (.planned rfl acted)))

theorem closing_joins (joins : List Nat) {last : Action} (closes : Closing [last]) :
    Closing (joins.map .join ++ [last]) := by
  induction joins with
  | nil => exact closes
  | cons copier joins ih => exact .join ih

private theorem settle (sound : before.Sound) (covers : before.Covers before.conductor.children)
    (held : before.conductor.held = none) (pending : ((before.setAgenda []).settle host).conductor.outcome = none) :
    ((before.setAgenda []).settle host).Sound := by
  unfold State.settle at pending ⊢
  split at pending
  · cases pending
  · next foreground =>
      rw [if_neg foreground]
      refine ⟨sound.plan _, .waiting (List.append_assoc ..) (closing_joins _ .finish) ?_ held⟩
      exact covers.evolve (.ofProcesses rfl rfl)

private theorem abort (sound : before.Sound) (covers : before.Covers before.conductor.children) (log : List LogRecord)
    (error : LaunchError) : ({ before with log }.setAgenda (before.abort error)).Sound := by
  refine ⟨(sound.log log).plan _, .killing (List.append_assoc ..) (closing_joins _ .fail) ?_⟩
  exact covers.evolve (.ofProcesses rfl rfl)

private theorem spawn {first : Bool} {stage : Stage} {rest : List Stage} (sound : before.Sound)
    (filters : ∀ pid files command program, host.start pid files command = .ok program → program.IsFilter)
    (covers : before.Covers before.conductor.children)
    (planned : before.conductor.agenda = spawns first (stage :: rest)) (conducted : before.conduct host = some after) :
    after.Sound := by
  cases answer : host.start (pidOf host before.processes.length) before.files
      (host.launcher.command stage.argv host.directory) with
  | error failure =>
      obtain ⟨last, split⟩ := spawns_cons first stage rest
      obtain ⟨log, failed⟩ := spawn_of_error (before.setAgenda (spawns false rest)) first last answer
      simp only [State.conduct, planned, split, State.act, failed, Option.some.injEq] at conducted
      subst conducted
      exact sound.abort covers log _
  | ok program =>
      have filter := filters _ _ _ _ answer
      have middle (agenda : List Action) (text : String) : ((before.setAgenda agenda).note .debug text).Steady :=
        (sound.plan agenda).log _
      have covered (agenda : List Action) (text : String) :
          ((before.setAgenda agenda).note .debug text).Covers before.conductor.children :=
        covers.evolve (.ofProcesses rfl rfl)
      cases rest with
      | nil =>
          obtain ⟨text, spawned⟩ := spawn_of_ok (before.setAgenda [.settle]) first true answer
          simp only [State.conduct, planned, spawns, State.act, spawned, Option.some.injEq] at conducted
          subst conducted
          have steady := middle [.settle] text
          have covers := covered [.settle] text
          obtain ⟨launch, _, _, _, _, _, _, _, _, _, _, _, launched⟩ :=
            launched_last _ stage program first steady.files
          refine ⟨steady.launch_last filter first, .starting (show _ = spawns false [] from ?_)
            (Covers.launch covers launched) ?_⟩
          · rw [launched.conductor]
            rfl
          · intro _
            rw [launched.conductor]
      | cons other rest =>
          obtain ⟨text, spawned⟩ := spawn_of_ok (before.setAgenda (spawns false (other :: rest))) first false answer
          simp only [State.conduct, planned, spawns, State.act, spawned, Option.some.injEq] at conducted
          subst conducted
          have steady := middle (spawns false (other :: rest)) text
          have covers := covered (spawns false (other :: rest)) text
          obtain ⟨launch, _, _, _, launched⟩ := launched_inner
            ((before.setAgenda (spawns false (other :: rest))).note .debug text) stage program first
          refine ⟨steady.launch_inner filter first, .starting (show _ = spawns false (other :: rest) from ?_)
            (Covers.launch covers launched) ?_⟩
          · rw [launched.conductor]
            rfl
          · intro none
            cases none

/-- A move of the thread keeps the invariant as long as nothing is handed back. -/
theorem conduct (sound : before.Sound)
    (filters : ∀ pid files command program, host.start pid files command = .ok program → program.IsFilter)
    (conducted : before.conduct host = some after) (pending : after.conductor.outcome = none) : after.Sound := by
  obtain ⟨action, rest, planned, acted⟩ := act_of_conduct conducted
  cases sound.busy with
  | @starting first stages agenda covers held =>
      cases stages with
      | nil =>
          obtain ⟨rfl, rfl⟩ : action = .settle ∧ rest = [] := by simpa [spawns] using planned.symm.trans agenda
          cases acted
          exact sound.settle covers (held rfl) pending
      | cons stage stages => exact sound.spawn filters covers agenda conducted
  | waiting agenda closing covers held =>
      exact sound.wait (planned.symm.trans agenda) closing covers held acted pending
  | killing agenda closing covers => exact sound.kill (planned.symm.trans agenda) closing covers acted pending
  | reaping agenda closing ended covers => exact sound.reap (planned.symm.trans agenda) closing covers acted

theorem canMove_of_act (sound : before.Sound) {action : Action} {rest : List Action}
    (planned : before.conductor.agenda = action :: rest)
    (acted : ∃ after, (before.setAgenda rest).act host action = some after) : before.CanMove host := by
  obtain ⟨after, acted⟩ := acted
  have turned : before.turn host .conductor = some after := by
    rw [turn, State.conduct, planned]
    exact acted
  exact canMove_of_turn .conductor sound.alive (by simp) turned

/-- Once no stage runs, the drains come to an end. -/
theorem canMove_of_closing (sound : before.Sound) {closing : List Action} (planned : before.conductor.agenda = closing)
    (closes : Closing closing) (covers : before.Covers []) : before.CanMove host := by
  cases closes with
  | finish => exact sound.canMove_of_act planned ⟨_, rfl⟩
  | fail => exact sound.canMove_of_act planned ⟨_, rfl⟩
  | @join number rest closes =>
      cases found : before.copiers[number]? with
      | none => exact sound.canMove_of_act planned ⟨before.setAgenda rest, by simp [State.act, setAgenda, found]⟩
      | some copier =>
          cases done : copier.isDone with
          | true =>
              exact sound.canMove_of_act planned ⟨before.setAgenda rest, by simp [State.act, setAgenda, found, done]⟩
          | false =>
              -- No stage runs, so the pipe has no writer left and the drain finds its end.
              have dry : before.hasWriter copier.pipe = false := by
                refine List.any_eq_false.mpr ?_
                intro process member writes
                obtain ⟨index, foundProcess⟩ := List.mem_iff_getElem?.mp member
                obtain ⟨running, _⟩ := Bool.and_eq_true_iff.mp writes
                obtain ⟨child, none, _⟩ := covers.running index process foundProcess running
                cases none
              exact canMove_of_copier sound.alive found done (.inl dry)

private theorem canMove (sound : before.Sound) (roomy : 1 ≤ host.capacity) : before.CanMove host := by
  cases sound.busy with
  | @starting first rest agenda covers held =>
      cases rest with
      | nil => exact sound.canMove_of_act agenda ⟨_, rfl⟩
      | cons stage rest =>
          obtain ⟨last, split⟩ := spawns_cons first stage rest
          exact sound.canMove_of_act (agenda.trans split) ⟨_, rfl⟩
  | @waiting left closing agenda closes covers held =>
      cases left with
      | nil => exact sound.canMove_of_closing agenda closes covers
      | cons child left =>
          obtain ⟨process, found⟩ : ∃ process, before.processes[child.process]? = some process :=
            ⟨_, List.getElem?_eq_getElem (covers.started child List.mem_cons_self)⟩
          cases running : process.isRunning with
          -- The stage waited for may be stuck, but then one that it waits for is not.
          | true => exact sound.layered.canMove_of_running sound.alive held roomy found running
          | false =>
              obtain ⟨status, asked⟩ := Ended.statusOf ⟨_, found, running⟩
              exact sound.canMove_of_act agenda ⟨_, Option.map_eq_some_iff.mpr ⟨status, asked, rfl⟩⟩
  | @killing left closing agenda closes covers =>
      cases left with
      | nil => exact sound.canMove_of_closing agenda closes covers
      | cons child left => exact sound.canMove_of_act agenda ⟨_, rfl⟩
  | @reaping child left closing agenda closes ended covers =>
      obtain ⟨status, asked⟩ := ended.statusOf
      exact sound.canMove_of_act agenda ⟨_, Option.map_eq_some_iff.mpr ⟨status, asked, rfl⟩⟩

end Sound

/-! ## Whole runs -/

/-- No other line goes on beside this one, and the invariant holds until something is
handed back. -/
structure Going (state : State) : Prop where
  alone : ∀ reaper ∈ state.reapers, reaper.agenda = []
  sound : state.conductor.outcome = none → state.Sound

namespace Going

variable {host : Host} {before after : State}

private theorem evolves {actor : Actor} (alone : ∀ reaper ∈ before.reapers, reaper.agenda = []) (sound : before.Sound)
    (other : actor ≠ .conductor) (moved : before.move host actor = some after) : Evolves before after := by
  unfold State.move at moved
  split at moved
  · cases moved
  · cases actor with
    | conductor => exact absurd rfl other
    | reaper number =>
        simp only [State.turn, State.reap] at moved
        split at moved
        · cases moved
        · next reaper found =>
            have idle := alone reaper (List.mem_of_getElem? found)
            simp [State.conduct, idle] at moved
    | process index =>
        simp only [State.turn] at moved
        split at moved
        · next process found =>
            split at moved
            · exact Evolves.moveProcess (sound.layered.plain index process found) moved
            · cases moved
        · cases moved
    | copier number =>
        simp only [State.turn] at moved
        split at moved
        · exact Evolves.moveCopier moved
        · cases moved
    | clock =>
        obtain ⟨moment, _, rfl⟩ := Option.map_eq_some_iff.mp moved
        exact Evolves.ofProcesses rfl rfl

private theorem alone_of_subset (alone : ∀ reaper ∈ before.reapers, reaper.agenda = [])
    (kept : ∀ reaper ∈ after.reapers, ∃ earlier ∈ before.reapers, reaper.agenda ⊆ earlier.agenda) :
    ∀ reaper ∈ after.reapers, reaper.agenda = [] := by
  intro reaper member
  obtain ⟨earlier, earlierMember, subset⟩ := kept reaper member
  exact List.subset_nil.mp (alone earlier earlierMember ▸ subset)

private theorem move {actor : Actor} (going : before.Going)
    (filters : ∀ pid files command program, host.start pid files command = .ok program → program.IsFilter)
    (moved : before.move host actor = some after) : after.Going := by
  by_cases own : actor = .conductor
  · subst own
    have conducted := conduct_of_move moved
    obtain ⟨_, _, _, acted⟩ := act_of_conduct conducted
    obtain ⟨outcome, reapers⟩ := act_frame acted
    refine ⟨alone_of_subset going.alone reapers, fun pending => ?_⟩
    exact (going.sound (outcome pending)).conduct filters conducted pending
  · -- The threads of earlier lines have nothing left to do, so they start nothing either.
    have others : before.OthersStarted := by
      intro reaper member action planned
      rw [going.alone reaper member] at planned
      cases planned
    have undisturbed := Undisturbed.move others own moved
    refine ⟨alone_of_subset going.alone undisturbed.reapers, fun pending => ?_⟩
    rw [undisturbed.conductor] at pending
    have sound := going.sound pending
    exact sound.disturb undisturbed (evolves going.alone sound own moved)

private theorem run {start state : State} {moves : List Move} (going : start.Going)
    (filters : ∀ pid files command program, host.start pid files command = .ok program → program.IsFilter)
    (run : Run host start moves state) : state.Going := by
  induction run with
  | idle => exact going
  | move _ moved ih => exact ih.move filters moved

private theorem initial (files opened : FileSystem) (input : OpenFile) (redirects : Redirects) (line : Line) :
    ((State.idle files input).prepared opened redirects line).Going where
  alone := by
    intro reaper member
    rw [reapers_prepared] at member
    obtain rfl : reaper = {} := by simpa [State.idle] using member
    rfl
  sound := by
    intro _
    have none : ∀ (index : Nat) (process : Process),
        ((State.idle files input).prepared opened redirects line).processes[index]? ≠ some process := by
      simp [processes_prepared, State.idle]
    refine ⟨⟨killed_prepared _ _ _ _, endsInFiles_prepared _ _ _ _, ?_⟩, ?_⟩
    · exact ⟨fun index process found => absurd found (none index process),
        fun index process _ found => absurd found (none index process),
        fun index _ process _ _ found => absurd found (none index process), fun _ held => nomatch held⟩
    · refine .starting rfl ⟨fun index process found => absurd found (none index process), ?_⟩ fun _ => rfl
      exact fun child member => nomatch member

end Going

/-- Carrying out a line never gets stuck: as long as its stages only read, write and
end, somebody other than the clock can move in every state that any order of moves
leads to, until something is handed back. -/
theorem canMove_of_run {host : Host} (roomy : 1 ≤ host.capacity)
    (filters : ∀ pid files command program, host.start pid files command = .ok program → program.IsFilter)
    {files opened : FileSystem} {input : OpenFile} {redirects : Redirects} {line : Line} {moves : List Move}
    {state : State} (run : Run host ((State.idle files input).prepared opened redirects line) moves state)
    (pending : state.conductor.outcome = none) : state.CanMove host :=
  (((Going.initial files opened input redirects line).run filters run).sound pending).canMove roomy

/-- A stage has filled the pipe to the next one, and the thread waits for it. Neither of
them can move, but the next stage can. -/
theorem canMove_of_run_full :
    let writer : Program := .write 1 [121, 10] fun _ => .exit .success
    let reader : Program := .read 0 1 fun _ => .exit .success
    let host : Host := { Host.still with start := fun pid _ _ => .ok (if pid = 2 then writer else reader) }
    let start := (State.idle .empty .null).prepared .empty {} { stages := [⟨["yes"]⟩, ⟨["head"]⟩] }
    ∃ moves state, Run host start moves state ∧ state.conductor.outcome = none ∧
      state.move host .conductor = none ∧ state.move host (.process 0) = none ∧ state.CanMove host := by
  intro writer reader host start
  have filters : ∀ pid files command program, host.start pid files command = .ok program → program.IsFilter := by
    intro pid files command program started
    obtain rfl : (if pid = 2 then writer else reader) = program := Except.ok.inj started
    split
    · exact .write (.inl rfl) fun _ => .exit
    · exact .read fun _ => .exit
  have first := Run.move (Run.idle : Run host start [] start) (rfl : start.move host .conductor = some _)
  have second := first.move (rfl : State.move host _ .conductor = some _)
  have third := second.move (rfl : State.move host _ .conductor = some _)
  have fourth := third.move (rfl : State.move host _ (.process 0) = some _)
  exact ⟨_, _, fourth, rfl, rfl, rfl, canMove_of_run (Nat.le_refl 1) filters fourth rfl⟩

end State

end PipeShell.Pipeline
