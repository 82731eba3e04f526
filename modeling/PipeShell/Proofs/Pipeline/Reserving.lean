import PipeShell.Proofs.Pipeline.Survivors

/-! # Streams that belong to one drain

The shell hands the reading end of a pipe that is drained to nobody, and a process comes by
the end of a pipe only by inheritance or by making the pipe. So nobody but its own drain
takes anything out of such a pipe. -/

set_option autoImplicit false

namespace PipeShell

open PipeShell.System

/-- The port is one of the two ends of a pipe. -/
def Port.IsPipeEnd (port : Port) : Prop := ∃ pipe, port.pipe? = some pipe

theorem Program.Confined.mono {less more : Port → Prop} {program : Program}
    (weaker : ∀ port, less port → more port) (confined : program.Confined more) : program.Confined less := by
  have confines {change : Holdings → Holdings} (confines : Holdings.Confines more change) :
      Holdings.Confines less change := fun holdings port isEnd => confines holdings port (weaker port isEnd)
  induction confined with
  | exit => exact .exit
  | read _ ih => exact .read ih
  | write _ ih => exact .write ih
  | files _ ih => exact .files ih
  | adjust change _ ih => exact .adjust (confines change) ih
  | attach _ ih => exact .attach ih
  | pipe _ ih => exact .pipe ih
  | inspect _ ih => exact .inspect ih
  | seek _ ih => exact .seek ih
  | fork change _ _ children ih => exact .fork (confines change) children ih
  | wait _ ih => exact .wait ih
  | signal _ ih => exact .signal ih
  | noted _ ih => exact .noted ih
  | sleep _ ih => exact .sleep ih

namespace Pipeline

/-- Whatever is started, it comes by no end of a pipe but those that it was started with and
those of the pipes that it makes. -/
def Host.Confined (host : Host) : Prop :=
  ∀ pid files command program, host.start pid files command = .ok program → program.Confined Port.IsPipeEnd

theorem Host.Confined.inherits {host : Host} (confined : host.Confined) : host.Inherits := by
  intro pid files command program started
  refine Program.inherits_iff.mpr (.mono ?_ (confined pid files command program started))
  rintro _ ⟨pipe, rfl⟩
  exact ⟨pipe, rfl⟩

namespace State

/-- All processes come by pipes as they should, and every pipe that is used exists. -/
structure Contained (state : State) : Prop where
  programs : ∀ process ∈ state.processes, process.program.Confined Port.IsPipeEnd
  bounded : ∀ process ∈ state.processes, ∀ port pipe, port.pipe? = some pipe → process.holds port = true →
    pipe < state.pipes.length
  made : ∀ copier ∈ state.copiers, copier.pipe < state.pipes.length

private theorem Contained.inheriting {state : State} (contained : state.Contained) : state.Inheriting where
  programs := by
    intro process member
    refine Program.inherits_iff.mpr (.mono ?_ (contained.programs process member))
    rintro _ ⟨pipe, rfl⟩
    exact ⟨pipe, rfl⟩
  bounded := by
    intro pipe written
    obtain ⟨process, member, writes⟩ := List.any_eq_true.mp written
    exact contained.bounded process member (.writer pipe) pipe rfl writes

theorem Contained.ready {state : State} (contained : state.Contained) (started : state.HasStarted) : state.Ready :=
  ⟨started, contained.inheriting, contained.made⟩

theorem contained_idle (files : FileSystem) (input : OpenFile) : (State.idle files input).Contained where
  programs := fun _ member => nomatch member
  bounded := fun _ member => nomatch member
  made := fun _ member => nomatch member

/-- Some copiers are the only ones that read their pipes. The pipe whose reading end waits
for the next stage is none of theirs. -/
structure Reserved (first : Nat) (state : State) : Prop extends Contained state where
  held : ∀ pipe, state.conductor.held = some pipe → pipe < state.pipes.length ∧
    ∀ number copier, first ≤ number → state.copiers[number]? = some copier → copier.pipe ≠ pipe
  unread : ∀ number copier, first ≤ number → state.copiers[number]? = some copier →
    ∀ process ∈ state.processes, process.holds (.reader copier.pipe) = false
  alone : ∀ number copier other another, first ≤ number → state.copiers[number]? = some copier →
    state.copiers[other]? = some another → other ≠ number → another.pipe ≠ copier.pipe

theorem exists_copier_of_courses {before after : State} {number : Nat} {later : Copier}
    (courses : after.copiers.map Copier.course = before.copiers.map Copier.course)
    (found : after.copiers[number]? = some later) :
    ∃ earlier, before.copiers[number]? = some earlier ∧ earlier.pipe = later.pipe := by
  have place : (before.copiers.map Copier.course)[number]? = some later.course := by
    rw [← courses, List.getElem?_map, found, Option.map_some]
  rw [List.getElem?_map] at place
  obtain ⟨earlier, foundBefore, same⟩ := Option.map_eq_some_iff.mp place
  exact ⟨earlier, foundBefore, congrArg Prod.fst same⟩

namespace Contained

variable {before after : State}

/-- The end of a pipe is held by those who held it before, or the pipe is new. -/
theorem holds_cases (contained : before.Contained) (descends : Descends before after) {later : Process}
    (member : later ∈ after.processes) {port : Port} {pipe : Nat} (ofPipe : port.pipe? = some pipe)
    (holds : later.holds port = true) : (∃ earlier ∈ before.processes, earlier.holds port = true) ∨
      before.pipes.length ≤ pipe ∧ pipe < after.pipes.length := by
  obtain ⟨earlier, memberBefore, bequeaths⟩ := descends.process later member
  have confined := contained.programs earlier memberBefore
  rcases bequeaths.holds _ confined port pipe ⟨pipe, ofPipe⟩ ofPipe holds with old | new
  · exact .inl ⟨earlier, memberBefore, old⟩
  · exact .inr new

private theorem pass (contained : before.Contained) (descends : Descends before after)
    (courses : after.copiers.map Copier.course = before.copiers.map Copier.course) : after.Contained where
  programs := by
    intro later member
    obtain ⟨earlier, memberBefore, bequeaths⟩ := descends.process later member
    exact bequeaths.confined _ (contained.programs earlier memberBefore)
  bounded := by
    intro later member port pipe ofPipe holding
    rcases contained.holds_cases descends member ofPipe holding with ⟨earlier, memberBefore, old⟩ | ⟨_, below⟩
    · exact Nat.lt_of_lt_of_le (contained.bounded earlier memberBefore port pipe ofPipe old) descends.pipes
    · exact below
  made := by
    intro later member
    obtain ⟨number, found⟩ := List.mem_iff_getElem?.mp member
    obtain ⟨earlier, foundBefore, same⟩ := exists_copier_of_courses courses found
    exact same ▸ Nat.lt_of_lt_of_le (contained.made earlier (List.mem_of_getElem? foundBefore)) descends.pipes

end Contained

namespace Reserved

variable {host : Host} {before after state : State} {first : Nat}

theorem initial {before : State} (contained : before.Contained) (files : FileSystem) (redirects : Redirects)
    (line : Line) : (before.prepared files redirects line).Reserved before.copiers.length := by
  have none {number : Nat} {copier : Copier} (low : before.copiers.length ≤ number)
      (found : (before.prepared files redirects line).copiers[number]? = some copier) : False := by
    rw [copiers_prepared, List.getElem?_eq_none low] at found
    cases found
  constructor
  case toContained =>
    obtain ⟨_, _, _, _, same⟩ := prepared_eq before files redirects line
    rw [same]
    exact ⟨contained.programs, contained.bounded, contained.made⟩
  case held => exact fun _ waiting => nomatch waiting
  case unread => exact fun _ _ low found => (none low found).elim
  case alone => exact fun _ _ _ _ low found => (none low found).elim

/-- As long as no stage is started, nobody comes by such a pipe. -/
theorem pass (reserved : before.Reserved first) (descends : Descends before after)
    (courses : after.copiers.map Copier.course = before.copiers.map Copier.course)
    (held : after.conductor.held = before.conductor.held ∨ after.conductor.held = none) : after.Reserved first where
  toContained := reserved.toContained.pass descends courses
  held := by
    intro waiting found
    rcases held with kept | gone
    · obtain ⟨below, apart⟩ := reserved.held waiting (kept.symm.trans found)
      refine ⟨Nat.lt_of_lt_of_le below descends.pipes, fun number later low foundLater => ?_⟩
      obtain ⟨earlier, foundBefore, same⟩ := exists_copier_of_courses courses foundLater
      exact same ▸ apart number earlier low foundBefore
    · cases gone.symm.trans found
  unread := by
    intro number later low found process member
    obtain ⟨earlier, foundBefore, same⟩ := exists_copier_of_courses courses found
    have made := reserved.made earlier (List.mem_of_getElem? foundBefore)
    rw [← same]
    by_contra reads
    have reads := reserved.holds_cases descends member rfl (eq_true_of_ne_false reads)
    rcases reads with ⟨reader, memberBefore, old⟩ | ⟨beyond, _⟩
    · cases (reserved.unread number earlier low foundBefore reader memberBefore).symm.trans old
    · omega
  alone := by
    intro number later other another low found foundOther different
    obtain ⟨earlier, foundBefore, same⟩ := exists_copier_of_courses courses found
    obtain ⟨earlierOther, foundOtherBefore, sameOther⟩ := exists_copier_of_courses courses foundOther
    rw [← same, ← sameOther]
    exact reserved.alone number earlier other earlierOther low foundBefore foundOtherBefore different

private theorem held_of_stageInput {isFirst : Bool} {pipe : Nat} (files : EndsInFiles state)
    (reads : state.stageInput isFirst = .reader pipe) : state.conductor.held = some pipe := by
  unfold State.stageInput at reads
  split at reads
  · have inFile := files.input
    rw [reads] at inFile
    cases inFile.1
  · split at reads
    · next held =>
        cases reads
        exact held
    · cases reads

/-- A new stage gets at no such pipe, and the streams that are drained from now on are
new. -/
theorem launch (reserved : state.Reserved first) (files : EndsInFiles state) (stage : Stage) {program : Program}
    (confined : program.Confined Port.IsPipeEnd) (isFirst last : Bool) :
    (state.launch stage program isFirst last).Reserved first := by
  obtain ⟨launch, drains, held, runs, launched, plumbed⟩ := exists_launched state stage program isFirst last files
  obtain ⟨added, copiers, _, courses⟩ := launched.copiers_launch
  generalize state.launch stage program isFirst last = after at launched plumbed copiers ⊢
  have more := plumbed.pipes
  have process {process : Process} (member : process ∈ after.processes) :
      process ∈ state.processes ∨ process = launch.process := by
    rw [launched.processes] at member
    simpa using member
  have read {pipe : Nat} (reads : launch.process.holds (.reader pipe) = true) : state.conductor.held = some pipe :=
    held_of_stageInput files (plumbed.reads pipe (Bool.and_eq_true_iff.mp reads).2)
  have old {number : Nat} {copier : Copier} (found : after.copiers[number]? = some copier)
      (bound : number < state.copiers.length) :
      state.copiers[number]? = some copier ∧ copier.pipe < state.pipes.length := by
    rw [copiers, List.getElem?_append_left bound] at found
    exact ⟨found, reserved.made copier (List.mem_of_getElem? found)⟩
  have new {number : Nat} {copier : Copier} (found : after.copiers[number]? = some copier)
      (bound : state.copiers.length ≤ number) :
      added[number - state.copiers.length]? = some copier ∧ copier.pipe ∈ drains.map Prod.fst ∧
        state.pipes.length ≤ copier.pipe ∧ copier.pipe < after.pipes.length := by
    rw [copiers, List.getElem?_append_right bound] at found
    have member := mem_drains courses (List.mem_of_getElem? found)
    exact ⟨found, member, plumbed.taken copier.pipe (List.mem_append_left _ member)⟩
  constructor
  case toContained =>
    constructor
    case programs =>
      intro one member
      rcases process member with before | rfl
      · exact reserved.programs one before
      · exact runs ▸ confined
    case bounded =>
      intro one member port pipe ofPipe holds
      rcases process member with before | rfl
      · exact Nat.lt_of_lt_of_le (reserved.bounded one before port pipe ofPipe holds) more
      · cases port with
        | reader number =>
            cases ofPipe
            exact Nat.lt_of_lt_of_le (reserved.held pipe (read holds)).1 more
        | writer number =>
            cases ofPipe
            exact (plumbed.writes pipe (Bool.and_eq_true_iff.mp holds).2).2
        | file | null => cases ofPipe
    case made =>
      intro copier member
      obtain ⟨number, found⟩ := List.mem_iff_getElem?.mp member
      rcases Nat.lt_or_ge number state.copiers.length with bound | bound
      · exact Nat.lt_of_lt_of_le (old found bound).2 more
      · exact (new found bound).2.2.2
  case held =>
    intro pipe waiting
    rw [launched.conductor] at waiting
    have member : pipe ∈ held.toList := Option.mem_toList.mpr waiting
    obtain ⟨beyond, below⟩ := plumbed.taken pipe (List.mem_append_right _ member)
    refine ⟨below, fun number copier low found => ?_⟩
    rcases Nat.lt_or_ge number state.copiers.length with bound | bound
    · have := (old found bound).2
      omega
    · exact (List.nodup_append.mp plumbed.distinct).2.2 _ (new found bound).2.1 _ member
  case unread =>
    -- All that the new stage reads was held for it; all that is drained from now on is new.
    intro number copier low found one member
    by_contra reads
    have reads := eq_true_of_ne_false reads
    rcases Nat.lt_or_ge number state.copiers.length with bound | bound
    · obtain ⟨foundBefore, _⟩ := old found bound
      rcases process member with before | rfl
      · cases (reserved.unread number copier low foundBefore one before).symm.trans reads
      · exact (reserved.held copier.pipe (read reads)).2 number copier low foundBefore rfl
    · obtain ⟨_, _, beyond, _⟩ := new found bound
      rcases process member with before | rfl
      · have := reserved.bounded one before (.reader copier.pipe) copier.pipe rfl reads
        omega
      · have := (reserved.held copier.pipe (read reads)).1
        omega
  case alone =>
    intro number copier other another low found foundOther different
    rcases Nat.lt_or_ge number state.copiers.length with bound | bound
    · obtain ⟨foundBefore, below⟩ := old found bound
      rcases Nat.lt_or_ge other state.copiers.length with boundOther | boundOther
      · exact reserved.alone number copier other another low foundBefore (old foundOther boundOther).1 different
      · have := (new foundOther boundOther).2.2.1
        omega
    · obtain ⟨place, _, beyond, _⟩ := new found bound
      rcases Nat.lt_or_ge other state.copiers.length with boundOther | boundOther
      · have := (old foundOther boundOther).2
        omega
      · intro same
        obtain ⟨placeOther, _⟩ := new foundOther boundOther
        have distinct : (added.map Copier.pipe).Nodup := by
          have distinct := (List.nodup_append.mp plumbed.distinct).1
          rwa [← courses, List.map_map] at distinct
        have bound : other - state.copiers.length < (added.map Copier.pipe).length := by
          rw [List.length_map]
          exact (List.getElem?_eq_some_iff.mp placeOther).1
        have place : (added.map Copier.pipe)[other - state.copiers.length]? =
            (added.map Copier.pipe)[number - state.copiers.length]? := by
          rw [List.getElem?_map, List.getElem?_map, place, placeOther, Option.map_some, Option.map_some, same]
        have := (List.getElem?_inj bound distinct).mp place
        omega

private theorem move {actor : Actor} (reserved : state.Reserved first) (isSealed : state.Sealed first)
    (confined : host.Confined) (moved : state.move host actor = some after) : after.Reserved first := by
  rcases move_starts isSealed.others moved with starts | proceeds
  · obtain ⟨stage, program, isFirst, last, conductor, log, ⟨pid, files, command, started⟩, held, rfl⟩ := starts
    have planned : { state with conductor, log }.Reserved first :=
      reserved.pass (.ofProcesses (Nat.le_refl _) rfl) rfl (.inl held)
    exact planned.launch (isSealed.plan _ _).ends stage (confined pid files command program started) isFirst last
  · exact reserved.pass proceeds.descends proceeds.courses proceeds.held

theorem run {moves : List Move} (reserved : before.Reserved first) (isSealed : before.Sealed first)
    (confined : host.Confined) (run : Run host before moves state) : state.Reserved first := by
  induction run with
  | idle => exact reserved
  | move earlier moved ih => exact ih.move (isSealed.run confined.inherits earlier) confined moved

end Reserved

end State

end Pipeline

end PipeShell
