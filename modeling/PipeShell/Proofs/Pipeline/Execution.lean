import Mathlib
import PipeShell.Proofs.Pipeline.Starting
import PipeShell.Proofs.Redirects.Opening

/-! # A line is wired as it says

Whatever line is carried out after others, and in whatever order everybody moves:
once all of its stages are started, they read and write where the line says. -/

set_option autoImplicit false

namespace PipeShell.Pipeline

open PipeShell.System

/-! ## The beginning -/

namespace State

/-- The threads of all lines so far have started all of their stages. -/
structure HasStarted (state : State) : Prop where
  own : ∀ action ∈ state.conductor.agenda, action.isStarting = false
  others : state.OthersStarted

theorem hasStarted_idle (files : FileSystem) (input : OpenFile) : (State.idle files input).HasStarted where
  own := fun _ member => nomatch member
  others := fun _ member => nomatch member

/-- The state in which the stages of a line can be started, its targets opened. -/
def prepared (before : State) (files : FileSystem) (redirects : Redirects) (line : Line) : State :=
  .start { before with files, captured := .empty, complaints := .empty, log := [] } redirects line

theorem attach_eq (state : State) (file : Option OpenFile) : state.attach file =
    ({ state with opened := state.opened ++ file.toList }, file.map fun _ => .file state.opened.length) := by
  cases file <;> simp [attach]

section Prepared

variable (before : State) (files : FileSystem) (redirects : Redirects) (line : Line)

theorem conductor_prepared : (before.prepared files redirects line).conductor =
    { agenda := spawns true line.stages, firstCopier := before.copiers.length } := rfl

theorem reapers_prepared :
    (before.prepared files redirects line).reapers = before.reapers ++ [before.conductor] := rfl

/-- Opening the ends of a line adds to the open files and to nothing else. -/
theorem prepared_eq : ∃ opened input output error, before.prepared files redirects line = { before with
    files, opened, input, output, error, background := line.background, captured := .empty, complaints := .empty,
    log := [], reapers := before.reapers ++ [before.conductor],
    conductor := { agenda := spawns true line.stages, firstCopier := before.copiers.length } } := by
  cases error : redirects.error with
  | none => simp [prepared, start, attach_eq, error]
  | some errorEnd => cases errorEnd <;> simp [prepared, start, attach_eq, error]

theorem copiers_prepared : (before.prepared files redirects line).copiers = before.copiers := by
  obtain ⟨_, _, _, _, same⟩ := prepared_eq before files redirects line
  rw [same]

theorem processes_prepared : (before.prepared files redirects line).processes = before.processes := by
  obtain ⟨_, _, _, _, same⟩ := prepared_eq before files redirects line
  rw [same]

theorem killed_prepared : (before.prepared files redirects line).killed = before.killed := by
  obtain ⟨_, _, _, _, same⟩ := prepared_eq before files redirects line
  rw [same]

theorem othersStarted_prepared (started : before.HasStarted) :
    (before.prepared files redirects line).OthersStarted := by
  intro reaper member
  rw [reapers_prepared] at member
  rcases List.mem_append.mp member with earlier | last
  · exact started.others reaper earlier
  · obtain rfl := List.mem_singleton.mp last
    exact started.own

theorem orderly_prepared : (before.prepared files redirects line).Orderly := .inl ⟨rfl, true, line.stages, rfl⟩

end Prepared

theorem orderly_of_run {host : Host} {start state : State} {moves : List Move} (run : Run host start moves state)
    (orderly : start.Orderly) (others : start.OthersStarted) : state.Orderly ∧ state.OthersStarted := by
  induction run with
  | idle => exact ⟨orderly, others⟩
  | @move _ before after actor _ moved ih =>
      obtain ⟨orderly, others⟩ := ih
      by_cases own : actor = .conductor
      · subst own
        have conducted := conduct_of_move moved
        obtain ⟨_, _, _, acted⟩ := act_of_conduct conducted
        exact ⟨orderly.conduct conducted, others.kept (act_frame acted).2⟩
      · have undisturbed := Undisturbed.move others own moved
        refine ⟨?_, undisturbed.othersStarted others⟩
        rw [Orderly, undisturbed.conductor]
        exact orderly

/-- Once something is handed back all stages were started, so another line can follow. -/
theorem hasStarted_of_run {host : Host} {before state : State} {files : FileSystem} {redirects : Redirects}
    {line : Line} {moves : List Move} (started : before.HasStarted)
    (run : Run host (before.prepared files redirects line) moves state) (handedBack : state.conductor.outcome ≠ none) :
    state.HasStarted := by
  obtain ⟨orderly, others⟩ := orderly_of_run run (orderly_prepared before files redirects line)
    (othersStarted_prepared before files redirects line started)
  rcases orderly with ⟨pending, _⟩ | later
  · exact absurd pending handedBack
  · exact ⟨later, others⟩

/-- A port leads to an open file, wherever the position in it is by now. -/
def Leads (state : State) (port : Port) (file : OpenFile) : Prop :=
  ∃ slot later, port = .file slot ∧ state.opened[slot]? = some later ∧ later.rewound = file.rewound

/-- The ends of a line lead to the files that were opened for it. Without a file, the
input is the shell's own, and the others are open. -/
structure Attached (redirects : Redirects) (ends state : State) : Prop where
  input :
    match redirects.input with
    | some file => state.Leads ends.input file
    | none => ends.input = .file 0
  output :
    match redirects.output with
    | some file => ∃ port, ends.output = some port ∧ state.Leads port file
    | none => ends.output = none
  error :
    match redirects.error with
    | some (.own file) => ∃ port, ends.error = some port ∧ state.Leads port file
    | some .shared => ends.error = ends.output ∧ ends.output.isSome
    | none => ends.error = none

private theorem Leads.kept {start state : State} (same : SameEnds start state) {port : Port} {file : OpenFile}
    (isEnd : start.input = port ∨ start.output = some port ∨ start.error = some port) (leads : start.Leads port file) :
    state.Leads port file := by
  obtain ⟨slot, middle, rfl, found, sameMiddle⟩ := leads
  obtain ⟨later, foundLater, sameLater⟩ := same.opened slot middle (.inr isEnd) found
  exact ⟨slot, later, rfl, foundLater, sameLater.trans sameMiddle⟩

private theorem Attached.kept {redirects : Redirects} {start state : State} (same : SameEnds start state)
    (attached : Attached redirects start start) : Attached redirects start state where
  input := by
    have input := attached.input
    split
    · next file found =>
        rw [found] at input
        exact input.kept same (.inl rfl)
    · next found =>
        rw [found] at input
        exact input
  output := by
    have output := attached.output
    split
    · next file found =>
        rw [found] at output
        obtain ⟨port, leads, toFile⟩ := output
        exact ⟨port, leads, toFile.kept same (.inr (.inl leads))⟩
    · next found =>
        rw [found] at output
        exact output
  error := by
    have error := attached.error
    split
    · next file found =>
        rw [found] at error
        obtain ⟨port, leads, toFile⟩ := error
        exact ⟨port, leads, toFile.kept same (.inr (.inr leads))⟩
    · next found =>
        rw [found] at error
        exact error
    · next found =>
        rw [found] at error
        exact error

private theorem attached_prepared {before : State} {files : FileSystem} {redirects : Redirects} {line : Line}
    (fits : redirects.Fits line) :
    Attached redirects (before.prepared files redirects line) (before.prepared files redirects line) := by
  obtain ⟨input, output, error⟩ := redirects
  cases error with
  | none => constructor <;> cases input <;> cases output <;> simp [prepared, start, attach_eq, Leads]
  | some errorEnd =>
      cases errorEnd with
      | own file => constructor <;> cases input <;> cases output <;> simp [prepared, start, attach_eq, Leads]
      | shared =>
          cases output with
          | none => cases fits.shared rfl
          | some outputFile => constructor <;> cases input <;> simp [prepared, start, attach_eq, Leads]

theorem endsInFiles_prepared (before : State) (files : FileSystem) (redirects : Redirects) (line : Line) :
    EndsInFiles (before.prepared files redirects line) := by
  obtain ⟨input, output, error⟩ := redirects
  cases error with
  | none => constructor <;> cases input <;> cases output <;> simp [prepared, start, attach_eq, readPipe, writtenPipe]
  | some errorEnd =>
      cases errorEnd <;> constructor <;> cases input <;> cases output <;>
        simp [prepared, start, attach_eq, readPipe, writtenPipe]

end State

namespace Phase

variable {host : Host} {state : State} {stages : List Stage} {launches : List Launch}

theorem initial (before : State) (files : FileSystem) (redirects : Redirects) (line : Line)
    (started : before.HasStarted) :
    Phase host (before.prepared files redirects line) line.stages [] (before.prepared files redirects line) := by
  have underway : Underway (before.prepared files redirects line) [] [] [] (before.prepared files redirects line) :=
    ⟨State.othersStarted_prepared before files redirects line started, .refl _, rfl, rfl, (List.append_nil _).symm⟩
  cases split : line.stages with
  | nil =>
      refine .started underway ?_ rfl (.inl ?_)
      · exact ⟨.nil, by simp, by simp [Linked], by simp, by simp, by simp, ⟨.nil, .rfl⟩⟩
      · rw [State.conductor_prepared, split]
        rfl
  | cons stage rest =>
      refine .starting (show stage :: rest = [] ++ stage :: rest from rfl) underway ?_ .nil
      rw [State.conductor_prepared, split]
      rfl

end Phase

/-- What `execute` does is one run from the state in which the stages can be
started. -/
theorem exists_run_execute {host : Host} {before : State} {viewer : Viewer} {home : Option String} {line : Line}
    {files : FileSystem} {redirects : Redirects}
    (validated : line.openTargets before.files viewer home host.directory = (files, .ok redirects)) :
    ∃ moves, Run host (before.prepared files redirects line) moves (execute host before viewer home line).state := by
  have same : (execute host before viewer home line).state = (before.prepared files redirects line).run host
      (before.clock + host.patience) Program.lifetime {} := by
    simp [execute, validated, Execution.ofState, State.prepared]
  rw [same]
  exact State.exists_run host _ _ _ _

theorem execute_eq_ofState {host : Host} {before : State} {viewer : Viewer} {home : Option String} {line : Line}
    {opened : FileSystem} {redirects : Redirects}
    (validated : line.openTargets before.files viewer home host.directory = (opened, .ok redirects)) :
    execute host before viewer home line = .ofState (execute host before viewer home line).state := by
  have whole : execute host before viewer home line = .ofState ((before.prepared opened redirects line).run host
      (before.clock + host.patience) Program.lifetime {}) := by
    simp [execute, validated, State.prepared]
  rw [whole]
  rfl

/-! ## The wiring -/

private theorem exists_move_of_orderly {host : Host} {state : State} (orderly : state.Orderly)
    (starting : ∃ action ∈ state.conductor.agenda, action.isStarting = true) (alive : state.killed = none) :
    ∃ after, state.move host .conductor = some after := by
  obtain ⟨action, member, starts⟩ := starting
  rcases orderly with ⟨_, first, rest, planned⟩ | later
  · cases rest with
    | nil => exact State.exists_move_of_isStarting planned rfl alive
    | cons stage rest =>
        obtain ⟨last, split⟩ := State.spawns_cons first stage rest
        exact State.exists_move_of_isStarting (planned.trans split) rfl alive
  · rw [later action member] at starts
    cases starts

theorem wired_of_run {host : Host} {before state : State} {files : FileSystem} {redirects : Redirects} {line : Line}
    {moves : List Move} (started : before.HasStarted) (fits : redirects.Fits line)
    (run : Run host (before.prepared files redirects line) moves state) (succeeds : ∀ move ∈ moves, move.Succeeds host)
    (later : ∀ action ∈ state.conductor.agenda, action.isStarting = false) :
    Wired host (before.prepared files redirects line) line.stages (launchesOf moves)
        ((state.copiers.drop state.conductor.firstCopier).map Copier.course) ∧
      State.Attached redirects (before.prepared files redirects line) state ∧
      state.conductor.children = childrenFor line.stages (launchesOf moves) ∧ state.conductor.held = none := by
  have phase := (Phase.initial before files redirects line started).run
    (State.endsInFiles_prepared before files redirects line) run succeeds
  cases phase with
  | starting split underway agenda chain =>
      obtain ⟨last, planned⟩ := State.spawns_cons _ _ _
      cases later _ ((agenda.trans planned) ▸ List.mem_cons_self)
  | @started drains underway wired held agenda =>
      have courses : (state.copiers.drop state.conductor.firstCopier).map Copier.course = drains := by
        rw [underway.firstCopier, State.conductor_prepared, List.map_drop, underway.courses, State.copiers_prepared,
          List.drop_left' (List.length_map _)]
      rw [courses]
      exact ⟨wired, (State.attached_prepared fits).kept underway.ends, underway.children, held⟩

/-- For every line whose targets could be opened and every order of moves: the thread
never gets stuck before the last start, and once something is handed back the next line
can follow. If no stage fails to start, the processes are those of the stages, wired as
the line says, and the shell holds no end of a pipe but those of its drains. -/
theorem wired_of_opened {host : Host} {before : State} {viewer : Viewer} {home : Option String} {line : Line}
    {files : FileSystem} {redirects : Redirects} (started : before.HasStarted)
    (validated : line.openTargets before.files viewer home host.directory = (files, .ok redirects)) :
    redirects.Fits line ∧
    (∃ moves, Run host (before.prepared files redirects line) moves (execute host before viewer home line).state) ∧
    ∀ moves state, Run host (before.prepared files redirects line) moves state →
      ((∃ action ∈ state.conductor.agenda, action.isStarting = true) → state.killed = none →
        ∃ after, state.move host .conductor = some after) ∧
      (state.conductor.outcome ≠ none → state.HasStarted) ∧
      ((∀ move ∈ moves, move.Succeeds host) → (∀ action ∈ state.conductor.agenda, action.isStarting = false) →
        Wired host (before.prepared files redirects line) line.stages (launchesOf moves)
          ((state.copiers.drop state.conductor.firstCopier).map Copier.course) ∧
        State.Attached redirects (before.prepared files redirects line) state ∧
        state.conductor.children = childrenFor line.stages (launchesOf moves) ∧ state.conductor.held = none) := by
  have fits := Line.fits_of_openTargets validated
  refine ⟨fits, exists_run_execute validated, ?_⟩
  intro moves state run
  obtain ⟨orderly, _⟩ := State.orderly_of_run run (State.orderly_prepared before files redirects line)
    (State.othersStarted_prepared before files redirects line started)
  refine ⟨exists_move_of_orderly orderly, State.hasStarted_of_run started run, ?_⟩
  exact wired_of_run started fits run

def Host.still : Host where
  launcher := .native
  directory := "/"
  capacity := 1
  pid := 1
  firstPid := 2
  wholeLines := true
  patience := 0
  start := fun _ _ _ => .ok (.exit .success)

/-- Two stages in the background with a file for the errors of the second one: three
moves of the thread start and wire them. -/
theorem wired_of_opened_logged :
    let line : Line := { stages := [⟨["yes"]⟩, ⟨["head"]⟩], error := some ⟨"log", true⟩, background := true }
    let files : FileSystem :=
      { entries := [([], .directory ⟨0o755, 0⟩), (["log"], .file 0)], stored := [⟨⟨0o644, 0⟩, []⟩] }
    let redirects : Redirects := { error := some (.own (.ofMode .append (.file 0))) }
    let start := (State.idle files .null).prepared files redirects line
    line.openTargets files ⟨0, [], 0⟩ "/" Host.still.directory = (files, .ok redirects) ∧
      ∃ moves state, Run Host.still start moves state ∧ state.conductor.outcome = some (.ok (.background 3)) ∧
        Wired Host.still start line.stages (launchesOf moves)
          ((state.copiers.drop state.conductor.firstCopier).map Copier.course) := by
  intro line files redirects start
  have validated : line.openTargets files ⟨0, [], 0⟩ "/" Host.still.directory = (files, .ok redirects) := by cbv
  have first := Run.move (Run.idle : Run Host.still start [] start) (rfl : start.move Host.still .conductor = some _)
  have second := first.move (rfl : State.move Host.still _ .conductor = some _)
  have third := second.move (rfl : State.move Host.still _ .conductor = some _)
  have wired := (wired_of_opened (State.hasStarted_idle files .null) validated).2.2 _ _ third
  exact ⟨validated, _, _, third, rfl, (wired.2.2 (fun _ _ _ _ _ _ _ _ => ⟨_, rfl⟩) (by decide)).1⟩

end PipeShell.Pipeline
