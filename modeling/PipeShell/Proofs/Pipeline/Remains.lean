import PipeShell.Proofs.Pipeline.Fates

/-! # What is never undone

A process that has ended stays as it ended and nobody takes back that it was waited for;
a copier goes on only by itself, and so does what was written to the sinks. This holds of
everybody's moves, whatever the processes do. -/

set_option autoImplicit false

namespace PipeShell.Pipeline

open PipeShell.System

/-- What stays of a process whatever happens. -/
structure Process.Remains (earlier later : Process) : Prop where
  status : ∀ status, earlier.status = some status → later.status = some status
  waits : earlier.waits ≤ later.waits

namespace Process.Remains

theorem refl (process : Process) : process.Remains process := ⟨fun _ => id, Nat.le_refl _⟩

private theorem trans {first second third : Process} (one : first.Remains second) (two : second.Remains third) :
    first.Remains third where
  status := fun status ended => two.status status (one.status status ended)
  waits := Nat.le_trans one.waits two.waits

private theorem of_fate {low high : Nat} {earlier later : Process} (fate : earlier.Fate low high later) :
    earlier.Remains later := ⟨fate.status, fate.waits⟩

end Process.Remains

/-- A copier that has just been started. -/
def Copier.IsFresh (copier : Copier) : Prop := copier.pending = [] ∧ copier.drain = some {}

namespace State

/-- Nothing was read from a pipe for a sink or written to one; there may be more copiers
than before. -/
structure Remains (before after : State) : Prop where
  copiers : ∃ added, after.copiers = before.copiers ++ added ∧ ∀ copier ∈ added, copier.IsFresh
  captured : after.captured = before.captured
  complaints : after.complaints = before.complaints
  process : ∀ (index : Nat) (earlier : Process), before.processes[index]? = some earlier →
    ∃ later, after.processes[index]? = some later ∧ earlier.Remains later

namespace Remains

/-- Where nothing but the processes can have changed, each of them tells what became of
it. -/
theorem ofProcesses {before after : State} (copiers : after.copiers = before.copiers)
    (captured : after.captured = before.captured) (complaints : after.complaints = before.complaints)
    (process : ∀ (index : Nat) (earlier : Process), before.processes[index]? = some earlier →
      ∃ later, after.processes[index]? = some later ∧ earlier.Remains later) : Remains before after where
  copiers := ⟨[], by rw [copiers, List.append_nil], fun _ member => nomatch member⟩
  captured := captured
  complaints := complaints
  process := process

theorem ofSame {before after : State} (copiers : after.copiers = before.copiers)
    (captured : after.captured = before.captured) (complaints : after.complaints = before.complaints)
    (processes : after.processes = before.processes) : Remains before after :=
  ofProcesses copiers captured complaints fun _ earlier found => ⟨earlier, processes ▸ found, .refl earlier⟩

theorem refl (state : State) : Remains state state := ofSame rfl rfl rfl rfl

theorem trans {first second third : State} (one : Remains first second) (two : Remains second third) :
    Remains first third where
  copiers := by
    obtain ⟨added, same, fresh⟩ := one.copiers
    obtain ⟨more, sameMore, freshMore⟩ := two.copiers
    refine ⟨added ++ more, by rw [sameMore, same, List.append_assoc], ?_⟩
    intro copier member
    rcases List.mem_append.mp member with old | new
    · exact fresh copier old
    · exact freshMore copier new
  captured := two.captured.trans one.captured
  complaints := two.complaints.trans one.complaints
  process := by
    intro index earlier found
    obtain ⟨middle, foundMiddle, first⟩ := one.process index earlier found
    obtain ⟨later, foundLater, second⟩ := two.process index middle foundMiddle
    exact ⟨later, foundLater, first.trans second⟩

/-- Whatever a process does, it undoes nothing. -/
theorem of_stirs {before after : State} (stirs : Stirs before after) : Remains before after := by
  obtain ⟨_, _, _, _, _, rfl⟩ := stirs.frame
  refine ofProcesses rfl rfl rfl fun index earlier found => ?_
  obtain ⟨later, foundLater, fate⟩ := stirs.process index earlier found
  exact ⟨later, foundLater, .of_fate fate⟩

/-! ## Moves of the shell's threads -/

private theorem kill (state : State) (index : Nat) : Remains state (state.kill index) := by
  unfold State.kill
  split
  · next process found =>
      split
      · next running => exact of_stirs (.finish found running _)
      · exact refl state
  · exact refl state

theorem countWait (state : State) (child : Child) : Remains state (state.countWait child) := by
  refine ofProcesses rfl rfl rfl fun index earlier found => ?_
  refine ⟨_, (List.getElem?_modify ..).trans (congrArg _ found), ?_⟩
  dsimp only
  split
  · exact ⟨fun _ => id, Nat.le_succ _⟩
  · exact .refl earlier

theorem launch (state : State) (stage : Stage) (program : Program) (first last : Bool) :
    Remains state (state.launch stage program first last) where
  copiers := by
    have fresh (outlet : Port) (sink : Sink) : ∀ copier ∈ copierOf outlet sink, copier.IsFresh := by
      intro copier member
      cases outlet with
      | writer pipe =>
          obtain rfl := List.mem_singleton.mp member
          exact ⟨rfl, rfl⟩
      | file | reader | null => cases member
    refine ⟨_, List.append_assoc .., ?_⟩
    intro copier member
    rcases List.mem_append.mp member with error | output
    · exact fresh _ _ copier error
    · split at output
      · exact fresh _ _ copier output
      · cases output
  captured := rfl
  complaints := rfl
  process := by
    intro index earlier found
    have bound := (List.getElem?_eq_some_iff.mp found).1
    exact ⟨earlier, (List.getElem?_append_left bound).trans found, .refl earlier⟩

theorem act {host : Host} {state after : State} {action : Action} (acted : state.act host action = some after) :
    Remains state after := by
  cases action with
  | spawn stage first last =>
      cases acted
      unfold State.spawn
      dsimp only
      split
      · exact (ofSame rfl rfl rfl rfl : Remains state (state.note _ _)).trans (launch _ _ _ _ _)
      · exact ofSame rfl rfl rfl rfl
  | settle =>
      cases acted
      unfold State.settle
      split <;> exact ofSame rfl rfl rfl rfl
  | kill child =>
      cases acted
      exact (ofSame rfl rfl rfl rfl : Remains state (state.note _ _)).trans (kill _ _)
  | reap child =>
      obtain ⟨status, _, rfl⟩ := Option.map_eq_some_iff.mp acted
      exact countWait state child
  | wait child =>
      obtain ⟨status, _, rfl⟩ := Option.map_eq_some_iff.mp acted
      exact (countWait state child).trans (ofSame rfl rfl rfl rfl)
  | join copier =>
      obtain ⟨rfl, _⟩ := act_join acted
      exact refl _
  | report =>
      obtain ⟨log, rfl⟩ := act_report acted
      exact ofSame rfl rfl rfl rfl
  | finish =>
      cases acted
      exact ofSame rfl rfl rfl rfl
  | fail error =>
      cases acted
      exact ofSame rfl rfl rfl rfl

private theorem conduct {host : Host} {state after : State} (conducted : state.conduct host = some after) :
    Remains state after := by
  unfold State.conduct at conducted
  split at conducted
  · cases conducted
  · have planned (agenda : List Action) : Remains state (state.setAgenda agenda) := ofSame rfl rfl rfl rfl
    exact (planned _).trans (act conducted)

/-- Nothing is undone by anybody but a copier. -/
theorem move {host : Host} {state after : State} {actor : Actor} (others : ∀ number, actor ≠ .copier number)
    (moved : state.move host actor = some after) : Remains state after := by
  unfold State.move at moved
  split at moved
  · cases moved
  · cases actor with
    | conductor => exact conduct moved
    | reaper number =>
        simp only [State.turn, State.reap] at moved
        split at moved
        · cases moved
        · next reaper _ =>
            obtain ⟨acted, conducted, rfl⟩ := Option.map_eq_some_iff.mp moved
            have inner : Remains { state with conductor := reaper } acted := conduct conducted
            exact ⟨inner.copiers, inner.captured, inner.complaints, inner.process⟩
    | process index =>
        simp only [State.turn] at moved
        split at moved
        · next process found =>
            split at moved
            · next active => exact of_stirs (.moveProcess found (Bool.and_eq_true_iff.mp active).1 moved)
            · cases moved
        · cases moved
    | copier number => exact absurd rfl (others number)
    | clock =>
        obtain ⟨moment, _, rfl⟩ := Option.map_eq_some_iff.mp moved
        exact ofSame rfl rfl rfl rfl

end Remains

/-! ## Copiers -/

def taken (state : State) : Sink → Bytes
  | .output => state.captured.toList
  | .error => state.complaints.toList

/-- What a copier does in one move: one of the writes it has to make, or a read. -/
theorem copier_cases {host : Host} {state after : State} {number : Nat} {copier : Copier}
    (moved : state.moveCopier host number copier = some after) :
    after.processes = state.processes ∧
    ((∃ piece pending, copier.pending = piece :: pending ∧
        after.copiers = state.copiers.set number { copier with pending } ∧
        ∀ sink, after.taken sink = state.taken sink ++ if copier.sink = some sink then piece else []) ∨
      ∃ drain bytes, copier.pending = [] ∧ copier.drain = some drain ∧
        after.copiers = state.copiers.set number { copier with
          pending := (drain.receive bytes).1.flatMap host.deliveries, drain := (drain.receive bytes).2 } ∧
        ∀ sink, after.taken sink = state.taken sink) := by
  unfold moveCopier at moved
  split at moved
  · next piece pending planned =>
      dsimp only at moved
      split at moved
      all_goals
        next leads =>
          cases moved
          refine ⟨rfl, .inl ⟨piece, pending, planned, rfl, ?_⟩⟩
          intro sink
          cases sink <;> simp [taken, leads]
  · next planned =>
      split at moved
      · cases moved
      · next drain going =>
          split at moved
          · cases moved
          · next between answer pulled =>
              obtain ⟨stirs, processes⟩ := Stirs.pull pulled
              have remains := Remains.of_stirs stirs
              have copiers := stirs.copiers
              refine ⟨?_, .inr ⟨drain, answer.toOption.getD [], planned, going, ?_⟩⟩
              all_goals
                generalize drain.receive (answer.toOption.getD []) = received at moved ⊢
                cases moved
              · exact processes
              refine ⟨by rw [copiers], ?_⟩
              intro sink
              cases sink with
              | output => exact congrArg Buffer.toList remains.captured
              | error => exact congrArg Buffer.toList remains.complaints

/-! ## Everybody -/

/-- What has ended stays as it ended, whoever moves. -/
theorem process_of_move {host : Host} {before after : State} {actor : Actor}
    (moved : before.move host actor = some after) {index : Nat} {earlier : Process}
    (found : before.processes[index]? = some earlier) :
    ∃ later, after.processes[index]? = some later ∧ earlier.Remains later := by
  by_cases copies : ∃ number, actor = .copier number
  · obtain ⟨number, rfl⟩ := copies
    unfold State.move at moved
    split at moved
    · cases moved
    · simp only [State.turn] at moved
      split at moved
      · exact ⟨earlier, (copier_cases moved).1 ▸ found, .refl earlier⟩
      · cases moved
  · exact (Remains.move (fun number same => copies ⟨number, same⟩) moved).process index earlier found

/-- No process goes away. -/
theorem length_processes_of_move {host : Host} {before after : State} {actor : Actor}
    (moved : before.move host actor = some after) : before.processes.length ≤ after.processes.length := by
  rcases Nat.lt_or_ge after.processes.length before.processes.length with fewer | more
  · obtain ⟨_, found, _⟩ := process_of_move moved (List.getElem?_eq_getElem fewer)
    rw [List.getElem?_eq_none (Nat.le_refl _)] at found
    cases found
  · exact more

/-- No copier goes away. -/
theorem length_copiers_of_move {host : Host} {before after : State} {actor : Actor}
    (moved : before.move host actor = some after) : before.copiers.length ≤ after.copiers.length := by
  by_cases copies : ∃ number, actor = .copier number
  · obtain ⟨number, rfl⟩ := copies
    unfold State.move at moved
    split at moved
    · cases moved
    · simp only [State.turn] at moved
      split at moved
      · obtain ⟨_, ⟨_, _, _, copiers, _⟩ | ⟨_, _, _, _, copiers, _⟩⟩ := copier_cases moved
        · exact Nat.le_of_eq (by rw [copiers, List.length_set])
        · exact Nat.le_of_eq (by rw [copiers, List.length_set])
      · cases moved
  · obtain ⟨added, same, _⟩ := (Remains.move (fun number same => copies ⟨number, same⟩) moved).copiers
    rw [same, List.length_append]
    exact Nat.le_add_right _ _

/-- A copier that is done never changes again. -/
theorem copier_of_move {host : Host} {before after : State} {actor : Actor}
    (moved : before.move host actor = some after) {number : Nat} {copier : Copier}
    (found : before.copiers[number]? = some copier) (done : copier.isDone = true) :
    after.copiers[number]? = some copier := by
  by_cases copies : ∃ number, actor = .copier number
  · obtain ⟨other, rfl⟩ := copies
    unfold State.move at moved
    split at moved
    · cases moved
    · simp only [State.turn] at moved
      split at moved
      · next mover foundMover =>
          have different : other ≠ number := by
            rintro rfl
            obtain rfl := Option.some.inj (found.symm.trans foundMover)
            obtain ⟨stopped, empty⟩ := Bool.and_eq_true_iff.mp done
            simp [moveCopier, List.isEmpty_iff.mp empty, Option.isNone_iff_eq_none.mp stopped] at moved
          obtain ⟨_, ⟨_, _, _, copiers, _⟩ | ⟨_, _, _, _, copiers, _⟩⟩ := copier_cases moved
          · rw [copiers, List.getElem?_set_ne different, found]
          · rw [copiers, List.getElem?_set_ne different, found]
      · cases moved
  · obtain ⟨added, same, _⟩ := (Remains.move (fun number same => copies ⟨number, same⟩) moved).copiers
    rw [same, List.getElem?_append_left (List.getElem?_eq_some_iff.mp found).1, found]

end State

end PipeShell.Pipeline
