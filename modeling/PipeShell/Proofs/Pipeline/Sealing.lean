import PipeShell.Proofs.Pipeline.Cleanup
import PipeShell.Proofs.Pipeline.Inheriting
import PipeShell.Proofs.Pipeline.Pouring

/-! # A stream that has ended stays so

A drain ends when it finds that nobody can write its pipe. As all processes get at pipes
by inheritance, nobody can write it ever after. -/

set_option autoImplicit false

namespace PipeShell.Pipeline

open PipeShell.System

/-- Whatever is started, it writes no pipe but those that it was started with and those that
it makes. -/
def Host.Inherits (host : Host) : Prop :=
  ∀ pid files command program, host.start pid files command = .ok program → program.Inherits

namespace State

/-! ## The drains -/

/-- Later copiers are earlier ones, and none of them has ended but where nobody can
write. -/
def Drained (before after : State) : Prop :=
  ∀ (number : Nat) (later : Copier), after.copiers[number]? = some later →
    ∃ earlier, before.copiers[number]? = some earlier ∧ later.pipe = earlier.pipe ∧
      (later.drain = none → earlier.drain = none ∨ before.hasWriter earlier.pipe = false)

theorem copiers_of_courses {host : Host} {state after : State} {actor : Actor} (other : ∀ number, actor ≠ .copier number)
    (courses : after.copiers.map Copier.course = state.copiers.map Copier.course)
    (moved : state.move host actor = some after) : after.copiers = state.copiers := by
  obtain ⟨added, same, _⟩ := (Remains.move other moved).copiers
  have length := congrArg List.length courses
  simp only [List.length_map, same, List.length_append] at length
  obtain rfl : added = [] := List.length_eq_zero_iff.mp (by omega)
  rw [same, List.append_nil]

namespace Drained

variable {host : Host} {before after state : State}

theorem ofSame (same : after.copiers = before.copiers) : Drained before after :=
  fun _ later found => ⟨later, same ▸ found, rfl, .inl⟩

private theorem setCopier {number : Nat} {copier : Copier} (found : state.copiers[number]? = some copier)
    (changed : Copier) (copiers : after.copiers = state.copiers.set number changed) (pipe : changed.pipe = copier.pipe)
    (ended : changed.drain = none → copier.drain = none ∨ state.hasWriter copier.pipe = false) :
    Drained state after := by
  intro other later foundLater
  rw [copiers] at foundLater
  by_cases here : number = other
  · subst here
    obtain ⟨_, rfl⟩ : _ ∧ changed = later := by simpa [List.getElem?_set] using foundLater
    exact ⟨copier, found, pipe, ended⟩
  · rw [List.getElem?_set_ne here] at foundLater
    exact ⟨later, foundLater, rfl, .inl⟩

private theorem nothing_of_receive {drain : Drain} {data : Bytes} (ended : (drain.receive data).2 = none) :
    data = [] := by
  by_contra some
  simp [Drain.receive, some] at ended

private theorem moveCopier {number : Nat} {copier : Copier} (found : state.copiers[number]? = some copier)
    (made : copier.pipe < state.pipes.length) (moved : state.moveCopier host number copier = some after) :
    Drained state after := by
  rcases moveCopier_cases made moved with ⟨_, _, _, _, copiers, _⟩ | ⟨_, _, _, _, copiers, _, _, _, dry⟩
  · exact setCopier found _ copiers rfl .inl
  · exact setCopier found _ copiers rfl fun ended => .inr (dry (nothing_of_receive ended)).2

/-- Whoever moves, no drain ends but where nobody can write. -/
theorem move {actor : Actor} (made : ∀ copier ∈ state.copiers, copier.pipe < state.pipes.length)
    (courses : after.copiers.map Copier.course = state.copiers.map Copier.course)
    (moved : state.move host actor = some after) : Drained state after := by
  by_cases copies : ∃ number, actor = .copier number
  · obtain ⟨number, rfl⟩ := copies
    unfold State.move at moved
    split at moved
    · cases moved
    · simp only [State.turn] at moved
      split at moved
      · next copier found => exact moveCopier found (made copier (List.mem_of_getElem? found)) moved
      · cases moved
  · exact ofSame (copiers_of_courses (fun number same => copies ⟨number, same⟩) courses moved)

end Drained

/-! ## The pipes -/

/-- All processes get at pipes by inheritance, and from some copier on, nobody can write
the pipe of one that has ended. -/
structure Sealed (first : Nat) (state : State) : Prop where
  inheriting : state.Inheriting
  others : state.OthersStarted
  ends : EndsInFiles state
  made : ∀ copier ∈ state.copiers, copier.pipe < state.pipes.length
  dry : ∀ (number : Nat) (copier : Copier), first ≤ number → state.copiers[number]? = some copier →
    copier.drain = none → state.hasWriter copier.pipe = false

private theorem mem_of_drained {before after : State} (drained : Drained before after) {later : Copier}
    (member : later ∈ after.copiers) : ∃ earlier ∈ before.copiers, later.pipe = earlier.pipe := by
  obtain ⟨number, found⟩ := List.mem_iff_getElem?.mp member
  obtain ⟨earlier, foundBefore, pipe, _⟩ := drained number later found
  exact ⟨earlier, List.mem_of_getElem? foundBefore, pipe⟩

/-- The ends of pipes that starting a stage hands out: it reads at most what was held for it,
and all that is written, drained or held then is new. -/
structure Plumbed (before : State) (isFirst : Bool) (launch : Launch) (drains : List (Nat × Option Sink))
    (held : Option Nat) (after : State) : Prop where
  pipes : before.pipes.length ≤ after.pipes.length
  reads : ∀ pipe, launch.process.holdings.reads pipe = true → before.stageInput isFirst = .reader pipe
  writes : ∀ pipe, launch.process.holdings.writes pipe = true → before.pipes.length ≤ pipe ∧ pipe < after.pipes.length
  taken : ∀ pipe ∈ drains.map Prod.fst ++ held.toList, before.pipes.length ≤ pipe ∧ pipe < after.pipes.length
  distinct : (drains.map Prod.fst ++ held.toList).Nodup

private theorem Plumbed.of_streams {before after : State} {isFirst : Bool} {launch : Launch}
    {drains : List (Nat × Option Sink)} {held : Option Nat} {output error : Port} (files : EndsInFiles before)
    (streams : launch.Streams (before.stageInput isFirst) output error)
    (pipes : before.pipes.length ≤ after.pipes.length)
    (outputNew : WritesWithin before.pipes.length after.pipes.length output)
    (errorNew : WritesWithin before.pipes.length after.pipes.length error)
    (taken : ∀ pipe ∈ drains.map Prod.fst ++ held.toList, before.pipes.length ≤ pipe ∧ pipe < after.pipes.length)
    (distinct : (drains.map Prod.fst ++ held.toList).Nodup) : Plumbed before isFirst launch drains held after where
  pipes := pipes
  reads := by
    intro pipe reads
    have member := Launch.mem_inlets reads
    rw [streams.inlets, outputNew.reads, errorNew.reads] at member
    have found : readPipe (before.stageInput isFirst) = some pipe := by simpa using member
    generalize before.stageInput isFirst = port at found
    cases port with
    | reader number =>
        cases found
        rfl
    | file | writer | null => cases found
  writes := by
    have unwritten : writtenPipe (before.stageInput isFirst) = none := by
      unfold State.stageInput
      split
      · exact files.input.2
      · split <;> rfl
    intro pipe writes
    have member := Launch.mem_outlets writes
    rw [streams.outlets, unwritten] at member
    rcases List.mem_append.mp member with one | other
    · exact outputNew.writes pipe (by simpa using one)
    · exact errorNew.writes pipe (by simpa using other)
  taken := taken
  distinct := distinct

/-- A pipe is written by those who could write it before, or it is new. -/
theorem Plumbed.hasWriter {before after : State} {stage : Stage} {isFirst : Bool} {launch : Launch}
    {drains : List (Nat × Option Sink)} {held : Option Nat} {pipe : Nat}
    (plumbed : Plumbed before isFirst launch drains held after)
    (launched : Launched before stage launch drains held after) (written : after.hasWriter pipe = true) :
    before.hasWriter pipe = true ∨ before.pipes.length ≤ pipe ∧ pipe < after.pipes.length := by
  obtain ⟨process, member, writing⟩ := List.any_eq_true.mp written
  rw [launched.processes] at member
  rcases List.mem_append.mp member with old | newcomer
  · exact .inl (List.any_eq_true.mpr ⟨process, old, writing⟩)
  · obtain rfl := List.mem_singleton.mp newcomer
    exact .inr (plumbed.writes pipe (Bool.and_eq_true_iff.mp writing).2)

/-- The copiers of a new stage have not yet done anything. -/
theorem Launched.copiers_launch {state : State} {stage : Stage} {program : Program} {first last : Bool} {launch : Launch}
    {drains : List (Nat × Option Sink)} {held : Option Nat}
    (launched : Launched state stage launch drains held (state.launch stage program first last)) :
    ∃ added, (state.launch stage program first last).copiers = state.copiers ++ added ∧
      (∀ copier ∈ added, copier.IsFresh) ∧ added.map Copier.course = drains := by
  obtain ⟨added, copiers, fresh⟩ := (Remains.launch state stage program first last).copiers
  refine ⟨added, copiers, fresh, ?_⟩
  have courses := launched.courses
  rw [copiers, List.map_append] at courses
  exact List.append_cancel_left courses

theorem mem_drains {added : List Copier} {drains : List (Nat × Option Sink)} {copier : Copier}
    (courses : added.map Copier.course = drains) (member : copier ∈ added) : copier.pipe ∈ drains.map Prod.fst :=
  courses ▸ List.mem_map.mpr ⟨copier.course, List.mem_map_of_mem member, rfl⟩

theorem exists_launched (state : State) (stage : Stage) (program : Program) (first last : Bool)
    (files : EndsInFiles state) :
    ∃ (launch : Launch) (drains : List (Nat × Option Sink)) (held : Option Nat), launch.process.program = program ∧
      Launched state stage launch drains held (state.launch stage program first last) ∧
      Plumbed state first launch drains held (state.launch stage program first last) := by
  cases last with
  | false =>
      obtain ⟨launch, runs, streams, pipes, launched⟩ := launched_inner state stage program first
      refine ⟨launch, _, _, runs, launched, .of_streams files streams (by omega) ⟨rfl, ?_⟩ ⟨rfl, ?_⟩ ?_ (by simp)⟩
      · rintro pipe same
        cases same
        omega
      · rintro pipe same
        cases same
        omega
      · intro pipe member
        rcases List.mem_append.mp member with error | next
        · obtain rfl := List.mem_singleton.mp error
          omega
        · obtain rfl := List.mem_singleton.mp next
          omega
  | true =>
      obtain ⟨launch, output, error, outputDrains, errorDrains, next, next', runs, streams, outputOutlet, errorOutlet,
        pipes, launched⟩ := launched_last state stage program first files
      have outputNew := outputOutlet.writesWithin files.output
      have errorNew := errorOutlet.writesWithin files.error
      obtain ⟨outputNext, outputFresh⟩ := outputOutlet.fresh
      obtain ⟨errorNext, errorFresh⟩ := errorOutlet.fresh
      -- The pipe for the errors, if there is one, comes after that for the output.
      have taken : ∀ pipe ∈ (errorDrains ++ outputDrains).map Prod.fst ++ (none : Option Nat).toList,
          state.pipes.length ≤ pipe ∧ pipe < next' := by
        intro pipe member
        rcases errorFresh with rfl | ⟨rfl, _⟩ <;> rcases outputFresh with rfl | ⟨rfl, _⟩ <;> simp at member <;> omega
      have distinct : ((errorDrains ++ outputDrains).map Prod.fst ++ (none : Option Nat).toList).Nodup := by
        rcases errorFresh with rfl | ⟨rfl, _⟩ <;> rcases outputFresh with rfl | ⟨rfl, _⟩ <;> simp
        omega
      refine ⟨launch, _, _, runs, launched, .of_streams files streams (by omega) ⟨outputNew.reads, ?_⟩ ⟨errorNew.reads, ?_⟩
        (pipes ▸ taken) distinct⟩
      · intro pipe found
        have bounds := outputNew.writes pipe found
        omega
      · intro pipe found
        have bounds := errorNew.writes pipe found
        omega

/-! ## Starting a stage, and everything else -/

/-- The shell's thread starts one more stage. -/
inductive Starts (host : Host) (before after : State) : Prop where
  | intro (stage : Stage) (program : Program) (isFirst last : Bool) (conductor : Conductor) (log : List LogRecord) :
      (∃ pid files command, host.start pid files command = .ok program) → conductor.held = before.conductor.held →
      after = { before with conductor, log }.launch stage program isFirst last → Starts host before after

/-- What happens when no stage is started. -/
structure Proceeds (before after : State) : Prop extends SameEnds before after where
  descends : Descends before after
  courses : after.copiers.map Copier.course = before.copiers.map Copier.course
  held : after.conductor.held = before.conductor.held ∨ after.conductor.held = none
  others : after.OthersStarted

section Cases

variable {host : Host} {state after : State}

private theorem Proceeds.plan (others : state.OthersStarted) (conductor : Conductor) (log : List LogRecord)
    (held : conductor.held = state.conductor.held ∨ conductor.held = none) :
    Proceeds state { state with conductor, log } where
  toSameEnds := ⟨rfl, rfl, rfl, SameEnds.sameOpened rfl⟩
  descends := .ofProcesses (Nat.le_refl _) rfl
  courses := rfl
  held := held
  others := others

private theorem act_starts {action : Action} (others : state.OthersStarted)
    (acted : state.act host action = some after) : Starts host state after ∨ Proceeds state after := by
  cases acts_of_act acted with
  | later starting =>
      have undisturbed := Undisturbed.act starting acted
      exact .inr {
        toSameEnds := { undisturbed.toSameEnds with }
        descends := .act starting acted
        courses := undisturbed.courses
        held := (Follows.of_act starting acted).held
        others := others.kept (act_frame acted).2 }
  | @started stage program isFirst last _ answer launched =>
      exact .inl ⟨stage, program, isFirst, last, state.conductor, _, ⟨_, _, _, answer⟩, rfl, launched⟩
  | failed log _ aborted =>
      rw [aborted]
      exact .inr (.plan others _ log (.inl rfl))
  | settled waits =>
      rw [waits]
      unfold State.settle
      split
      · exact .inr (.plan others _ _ (.inl rfl))
      · exact .inr (.plan others _ _ (.inl rfl))

/-- Every move starts a stage, or else all processes come from earlier ones and no copier is
added. -/
theorem move_starts {actor : Actor} (others : state.OthersStarted) (moved : state.move host actor = some after) :
    Starts host state after ∨ Proceeds state after := by
  by_cases own : actor = .conductor
  · subst own
    obtain ⟨action, rest, _, acted⟩ := act_of_conduct (conduct_of_move moved)
    have planned : (state.setAgenda rest).OthersStarted := others
    rcases act_starts planned acted with starts | proceeds
    · obtain ⟨stage, program, isFirst, last, conductor, log, started, held, launched⟩ := starts
      exact .inl ⟨stage, program, isFirst, last, conductor, log, started, held, launched⟩
    · exact .inr {
        toSameEnds := { proceeds.toSameEnds with }
        descends := { proceeds.descends with }
        courses := proceeds.courses
        held := proceeds.held
        others := proceeds.others }
  · have undisturbed := Undisturbed.move others own moved
    exact .inr {
      toSameEnds := undisturbed.toSameEnds
      descends := .move others own moved
      courses := undisturbed.courses
      held := .inl (congrArg Conductor.held undisturbed.conductor)
      others := undisturbed.othersStarted others }

end Cases

namespace Sealed

variable {host : Host} {before after state : State} {first : Nat}

theorem pass (isSealed : before.Sealed first) (descends : Descends before after) (others : after.OthersStarted)
    (ends : SameEnds before after) (drained : Drained before after) : after.Sealed first where
  inheriting := descends.inheriting isSealed.inheriting
  others := others
  ends := isSealed.ends.same ends
  made := by
    intro later member
    obtain ⟨earlier, memberBefore, pipe⟩ := mem_of_drained drained member
    rw [pipe]
    exact Nat.lt_of_lt_of_le (isSealed.made earlier memberBefore) descends.pipes
  dry := by
    intro number later low found ended
    obtain ⟨earlier, foundBefore, pipe, stopped⟩ := drained number later found
    have made := isSealed.made earlier (List.mem_of_getElem? foundBefore)
    have closed : before.hasWriter earlier.pipe = false := by
      rcases stopped ended with before | closed
      · exact isSealed.dry number earlier low foundBefore before
      · exact closed
    rw [pipe]
    by_contra written
    rcases descends.hasWriter isSealed.inheriting (eq_true_of_ne_false written) with old | ⟨new, _⟩
    · cases closed.symm.trans old
    · omega

private theorem launch (isSealed : state.Sealed first) (stage : Stage) {program : Program} (inherits : program.Inherits)
    (isFirst last : Bool) : (state.launch stage program isFirst last).Sealed first := by
  obtain ⟨launch, drains, held, runs, launched, plumbed⟩ := exists_launched state stage program isFirst last isSealed.ends
  obtain ⟨added, copiers, fresh, drains⟩ := launched.copiers_launch
  have written {pipe : Nat} (written : (state.launch stage program isFirst last).hasWriter pipe = true) :=
    plumbed.hasWriter launched written
  generalize state.launch stage program isFirst last = after at launched plumbed copiers written ⊢
  constructor
  case inheriting =>
    constructor
    case programs =>
      intro process member
      rw [launched.processes] at member
      rcases List.mem_append.mp member with old | newcomer
      · exact isSealed.inheriting.programs process old
      · obtain rfl := List.mem_singleton.mp newcomer
        exact runs ▸ inherits
    case bounded =>
      intro pipe writing
      rcases written writing with old | ⟨_, below⟩
      · exact Nat.lt_of_lt_of_le (isSealed.inheriting.bounded pipe old) plumbed.pipes
      · exact below
  case others =>
    rw [OthersStarted, launched.reapers]
    exact isSealed.others
  case ends => exact isSealed.ends.same (.of_launched launched)
  case made =>
    intro copier member
    rw [copiers] at member
    rcases List.mem_append.mp member with old | newcomer
    · exact Nat.lt_of_lt_of_le (isSealed.made copier old) plumbed.pipes
    · exact (plumbed.taken copier.pipe (List.mem_append_left _ (mem_drains drains newcomer))).2
  case dry =>
    -- The copiers of the new stage go on; the pipes of the others are older than the stage.
    intro number copier low found ended
    rcases Nat.lt_or_ge number state.copiers.length with old | newcomer
    · rw [copiers, List.getElem?_append_left old] at found
      have made := isSealed.made copier (List.mem_of_getElem? found)
      by_contra writing
      rcases written (eq_true_of_ne_false writing) with before | ⟨beyond, _⟩
      · cases (isSealed.dry number copier low found ended).symm.trans before
      · omega
    · rw [copiers, List.getElem?_append_right newcomer] at found
      cases (fresh copier (List.mem_of_getElem? found)).2.symm.trans ended

theorem plan (isSealed : state.Sealed first) (conductor : Conductor) (log : List LogRecord) :
    { state with conductor, log }.Sealed first :=
  isSealed.pass (.ofProcesses (Nat.le_refl _) rfl) isSealed.others ⟨rfl, rfl, rfl, SameEnds.sameOpened rfl⟩ (.ofSame rfl)

private theorem move {actor : Actor} (isSealed : state.Sealed first) (inherits : host.Inherits)
    (moved : state.move host actor = some after) : after.Sealed first := by
  rcases move_starts isSealed.others moved with starts | proceeds
  · obtain ⟨stage, program, isFirst, last, conductor, log, ⟨pid, files, command, started⟩, _, rfl⟩ := starts
    exact (isSealed.plan conductor log).launch stage (inherits pid files command program started) isFirst last
  · exact isSealed.pass proceeds.descends proceeds.others proceeds.toSameEnds (.move isSealed.made proceeds.courses moved)

/-- No pipe goes away, and one that can be written could be written before, or it is new. -/
theorem pipes_of_move {actor : Actor} (isSealed : state.Sealed first) (moved : state.move host actor = some after) :
    state.pipes.length ≤ after.pipes.length ∧
      ∀ pipe, after.hasWriter pipe = true → state.hasWriter pipe = true ∨ state.pipes.length ≤ pipe := by
  rcases move_starts isSealed.others moved with starts | proceeds
  · obtain ⟨stage, program, isFirst, last, conductor, log, _, _, rfl⟩ := starts
    have ends := (isSealed.plan conductor log).ends
    obtain ⟨launch, _, _, _, launched, plumbed⟩ := exists_launched _ stage program isFirst last ends
    exact ⟨plumbed.pipes, fun pipe written => (plumbed.hasWriter launched written).imp_right And.left⟩
  · have descends := proceeds.descends
    exact ⟨descends.pipes, fun pipe written => (descends.hasWriter isSealed.inheriting written).imp_right And.left⟩

/-- A copier that is added has done nothing yet, and its pipe is new. -/
theorem added_of_move {actor : Actor} (isSealed : state.Sealed first) (other : ∀ number, actor ≠ .copier number)
    (moved : state.move host actor = some after) : ∃ added, after.copiers = state.copiers ++ added ∧
      ∀ copier ∈ added, copier.IsFresh ∧ state.pipes.length ≤ copier.pipe := by
  rcases move_starts isSealed.others moved with starts | proceeds
  · obtain ⟨stage, program, isFirst, last, conductor, log, _, _, rfl⟩ := starts
    have ends := (isSealed.plan conductor log).ends
    obtain ⟨launch, drains, held, _, launched, plumbed⟩ := exists_launched _ stage program isFirst last ends
    obtain ⟨added, copiers, fresh, drains⟩ := launched.copiers_launch
    refine ⟨added, copiers, fun copier member => ⟨fresh copier member, ?_⟩⟩
    exact (plumbed.taken copier.pipe (List.mem_append_left _ (mem_drains drains member))).1
  · have same := copiers_of_courses other proceeds.courses moved
    exact ⟨[], by rw [same, List.append_nil], fun _ member => nomatch member⟩

theorem run {moves : List Move} (isSealed : before.Sealed first) (inherits : host.Inherits)
    (run : Run host before moves state) : state.Sealed first := by
  induction run with
  | idle => exact isSealed
  | move _ moved ih => exact ih.move inherits moved

end Sealed

end State

end PipeShell.Pipeline
