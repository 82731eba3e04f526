import PipeShell.Proofs.Drain.Arrivals
import PipeShell.Proofs.Pipeline.Ending
import PipeShell.Proofs.Redirects.Ends

/-! # A line computes the composition of its stages

When the first line is to be carried out, nothing is there but the files and the shell's
own input. What the stages will do can then be laid down for the whole row: if every stage
computes a function of its input, the line computes the functions one after the other. -/

set_option autoImplicit false

namespace PipeShell.Pipeline

open PipeShell.System

/-- The number of the stored file that takes what is for a sink. -/
def takingNumber (redirects : Redirects) (sink : Sink) : Option Nat :=
  (redirects.taker sink).bind fun file =>
    match file.node with
    | .file number => some number
    | _ => none

/-- The entry of the open files that the first stage reads. The shell's own input comes
first, then the files that were opened for the line. -/
def sourceSlot (redirects : Redirects) : Nat := redirects.input.toList.length

def takingSlot (redirects : Redirects) : Sink → Option Nat
  | .output => (redirects.taker .output).map fun _ => sourceSlot redirects + 1
  | .error => (redirects.taker .error).map fun _ => sourceSlot redirects + redirects.output.toList.length + 1

/-- What the stages of a line do, the files having been opened. -/
def Plan.ofLine (line : Line) (opened : FileSystem) (redirects : Redirects) (stdin : OpenFile)
    (functions : List (Bytes → Product)) (input : Bytes) : Plan where
  row := {
    last := line.stages.length - 1
    source := sourceSlot redirects
    output := takingSlot redirects .output
    error := takingSlot redirects .error }
  files := opened
  source := (redirects.source stdin).node
  number := takingNumber redirects
  input := fun index => compose (functions.take index) input
  product := productAt functions input

section Slots

variable {redirects : Redirects} {sink other : Sink} {file : OpenFile} {slot number : Nat}

theorem takingSlot_eq (redirects : Redirects) (sink : Sink) : ∃ place, sourceSlot redirects < place ∧
    takingSlot redirects sink = (redirects.taker sink).map fun _ => place := by
  cases sink with
  | output => exact ⟨_, Nat.lt_succ_self _, rfl⟩
  | error => exact ⟨_, Nat.lt_succ_of_le (Nat.le_add_right _ _), rfl⟩

private theorem sourceSlot_lt (found : takingSlot redirects sink = some slot) : sourceSlot redirects < slot := by
  obtain ⟨place, beyond, same⟩ := takingSlot_eq redirects sink
  rw [same] at found
  obtain ⟨_, _, rfl⟩ := Option.map_eq_some_iff.mp found
  exact beyond

theorem exists_taker_of_slot (found : takingSlot redirects sink = some slot) :
    ∃ file, redirects.taker sink = some file := by
  obtain ⟨_, _, same⟩ := takingSlot_eq redirects sink
  rw [same] at found
  obtain ⟨file, taken, _⟩ := Option.map_eq_some_iff.mp found
  exact ⟨file, taken⟩

/-- The ends have entries of their own. -/
theorem takingSlot_inj (first : takingSlot redirects sink = some slot)
    (second : takingSlot redirects other = some slot) : sink = other := by
  have apart : takingSlot redirects .output = some slot → takingSlot redirects .error ≠ some slot := by
    intro output error
    obtain ⟨file, taken⟩ := exists_taker_of_slot output
    obtain ⟨_, _, rfl⟩ := Option.map_eq_some_iff.mp output
    obtain ⟨_, _, same⟩ := Option.map_eq_some_iff.mp error
    have present : redirects.output = some file := taken
    rw [present] at same
    simp at same
  cases sink <;> cases other
  · rfl
  · exact absurd second (apart first)
  · exact absurd first (apart second)
  · rfl

theorem takingNumber_eq_some : takingNumber redirects sink = some number ↔
    ∃ file, redirects.taker sink = some file ∧ file.node = .file number := by
  rw [takingNumber, Option.bind_eq_some_iff]
  apply exists_congr
  intro file
  apply and_congr_right
  intro _
  cases file.node <;> simp

end Slots

section Initial

variable {host : Host} {line : Line} {files opened : FileSystem} {redirects : Redirects} {stdin : OpenFile}
  {functions : List (Bytes → Product)} {input : Bytes}

theorem row_target (sink : Sink) :
    (Plan.ofLine line opened redirects stdin functions input).row.target sink = takingSlot redirects sink := by
  cases sink <;> rfl

/-- Different files make a plan in which nothing gets in the way of anything else. -/
theorem proper_ofLine (distinct : redirects.Distinct opened stdin) (length : functions.length = line.stages.length) :
    (Plan.ofLine line opened redirects stdin functions input).Proper where
  linked := by
    intro index inner
    have bound : index < functions.length := by
      have : index < line.stages.length - 1 := inner
      omega
    exact compose_take_succ bound input
  source := by
    intro sink
    rw [row_target]
    exact fun same => Nat.lt_irrefl _ (sourceSlot_lt same)
  slots := by
    intro sink other slot first second
    rw [row_target] at first second
    exact takingSlot_inj first second
  captured := by
    intro sink captured
    obtain ⟨_, _, same⟩ := takingSlot_eq redirects sink
    rw [row_target, same, Option.map_eq_none_iff] at captured
    change takingNumber redirects sink = none
    rw [takingNumber, captured]
    rfl
  input := by
    intro sink number takes
    obtain ⟨file, taken, node⟩ := takingNumber_eq_some.mp takes
    exact fun same => distinct.input sink file taken (node.trans same.symm)
  numbers := by
    intro sink other number first second
    obtain ⟨file, taken, node⟩ := takingNumber_eq_some.mp first
    obtain ⟨otherFile, takenOther, nodeOther⟩ := takingNumber_eq_some.mp second
    cases sink <;> cases other
    · rfl
    · exact absurd (node.trans nodeOther.symm) (distinct.outputs file otherFile taken takenOther)
    · exact absurd (nodeOther.trans node.symm) (distinct.outputs otherFile file takenOther taken)
    · rfl

/-- The first line is prepared when its files are open and nothing else is there. -/
theorem prepared_idle (own : redirects.error ≠ some .shared) :
    (State.idle files stdin).prepared opened redirects line = {
      files := opened
      opened := stdin :: (redirects.input.toList ++ redirects.output.toList ++ (redirects.taker .error).toList)
      input := .file (sourceSlot redirects)
      output := (takingSlot redirects .output).map .file
      error := (takingSlot redirects .error).map .file
      background := line.background
      conductor := { agenda := State.spawns true line.stages }
      reapers := [{}] } := by
  obtain ⟨inputFile, outputFile, errorEnd⟩ := redirects
  rcases errorEnd with _ | errorFile | _
  · cases inputFile <;> cases outputFile <;> rfl
  · cases inputFile <;> cases outputFile <;> rfl
  · exact absurd rfl own

private theorem opened_source (redirects : Redirects) (stdin : OpenFile) (rest : List OpenFile) :
    (stdin :: (redirects.input.toList ++ rest))[sourceSlot redirects]? = some (redirects.source stdin) := by
  cases input : redirects.input <;> simp [sourceSlot, Redirects.source, input]

private theorem opened_taker {sink : Sink} {slot : Nat} (leads : takingSlot redirects sink = some slot) :
    (stdin :: (redirects.input.toList ++ redirects.output.toList ++ (redirects.taker .error).toList))[slot]? =
      redirects.taker sink := by
  obtain ⟨file, taken⟩ := exists_taker_of_slot leads
  cases sink with
  | output =>
      obtain ⟨_, _, rfl⟩ := Option.map_eq_some_iff.mp leads
      have present : redirects.output = some file := taken
      rw [taken, present]
      simp [sourceSlot]
  | error =>
      obtain ⟨_, _, rfl⟩ := Option.map_eq_some_iff.mp leads
      rw [taken]
      simp [sourceSlot]

/-- Before the first move everything that the plan tells of is still to be done. -/
theorem flows_prepared {viewer : Viewer} {home : Option String} {directory : String} {plan : Plan}
    (validated : line.openTargets files viewer home directory = (opened, .ok redirects))
    (distinct : redirects.Distinct opened stdin) (foreground : line.background = false) (proper : plan.Proper)
    (same : plan = .ofLine line opened redirects stdin functions (files.remaining (redirects.source stdin))) :
    Flows plan plan.ledger 0 ((State.idle files stdin).prepared opened redirects line) := by
  rw [prepared_idle distinct.own]
  subst same
  constructor
  case toCarries =>
    constructor
    case made => exact fun _ _ started => absurd started (Nat.not_lt_zero _)
    case unmade => exact fun _ => rfl
    case later => exact fun _ _ => ⟨rfl, rfl⟩
    case linked => exact fun index inner => (proper.linked index inner).symm
    case source =>
      refine ⟨redirects.source stdin, ?_, distinct.source, rfl, ?_⟩
      · rw [List.append_assoc]
        exact opened_source redirects stdin _
      · have same : opened.content (redirects.source stdin).node = files.content (redirects.source stdin).node :=
          Line.content_of_openTargets validated distinct.own distinct.input
        rw [FileSystem.remaining_eq, same]
        rfl
    case target =>
      intro sink slot leads
      rw [row_target] at leads
      obtain ⟨file, taken⟩ := exists_taker_of_slot leads
      obtain ⟨number, node, appends, _⟩ := Line.appends_of_openTargets validated distinct taken
      refine ⟨file, number, ?_, takingNumber_eq_some.mpr ⟨file, taken, node⟩, appends, rfl⟩
      rw [← taken]
      exact opened_taker leads
    case files => simp [Plan.extended, Plan.ledger, Plan.ofLine]
    case copiers => rfl
    case copier => exact fun _ _ _ found => by cases found
    case taken =>
      intro sink
      cases sink <;> rfl
    case marks => exact fun _ _ member => by cases member
  case killed => rfl
  case alone =>
    intro reaper member
    rw [List.mem_singleton.mp member]
  case ends => exact ⟨rfl, rfl, rfl⟩
  case bounded => exact Nat.zero_le _
  case processes => rfl
  case works => exact fun _ _ found => by cases found
  case held => rfl
  case foreground => exact foreground

end Initial

/-! ## What the plan comes to

Whoever moves when, the functions are computed one after the other: the schedule only
decides in which order the drained errors of different stages come. -/

/-- What a line leaves if its stages compute functions. -/
structure Composed (files : FileSystem) (line : Line) (redirects : Redirects) (functions : List (Bytes → Product))
    (input : Bytes) (state : State) : Prop where
  /-- The status of every stage is handed back. -/
  outcome : state.conductor.outcome = some (.ok (.foreground
    (line.stages.mapIdx fun index stage => ⟨stage.program, (productAt functions input index).status⟩)))
  /-- The output of the last stage is in its file, after what was kept of the file. -/
  outputFile : ∀ file, redirects.taker .output = some file →
    state.files.content file.node = line.kept .output (files.content file.node) ++ compose functions input
  /-- Without a file it was drained, and nothing else was. -/
  captured : state.captured.toList = if redirects.output.isSome then [] else Drain.copied (compose functions input)
  /-- The errors of the last stage are in their file, after what was kept of the file. -/
  errorFile : ∀ file, redirects.taker .error = some file →
    state.files.content file.node = line.kept .error (files.content file.node) ++
      (productAt functions input (line.stages.length - 1)).errors
  /-- The errors of the other stages were drained, and so were those of the last one
  without a file. -/
  complaints : Interleaves
    (line.stages.mapIdx fun index _ =>
      if index = line.stages.length - 1 ∧ redirects.error.isSome then []
      else Drain.copied (productAt functions input index).errors)
    state.complaints.toList
  /-- All other files are as they were. -/
  others : ∀ node, (∀ sink file, redirects.taker sink = some file → file.node ≠ node) →
    state.files.content node = files.content node

private theorem compose_eq {functions : List (Bytes → Product)} {last : Nat} (length : functions.length = last + 1)
    (input : Bytes) : compose functions input = (productAt functions input last).output := by
  rw [← compose_take_succ (by omega) input, List.take_of_length_le (by omega)]

section Extended

variable {plan : Plan} {sent : Sink → Bytes}

/-- What is written to one file changes no other. -/
theorem content_extended_of_ne {node : Node} (others : ∀ sink number, plan.number sink = some number → node ≠ .file number) :
    (plan.extended sent).content node = plan.files.content node := by
  have untouched (files : FileSystem) (sink : Sink) :
      (files.extendTo (plan.number sink) (sent sink)).content node = files.content node := by
    cases number : plan.number sink with
    | none => rfl
    | some number => exact FileSystem.content_extend_of_ne files (others sink _ number) _
  rw [Plan.extended, untouched, untouched]

/-- A file for a sink has got what was written for that sink and nothing else. -/
theorem content_extended (proper : plan.Proper) {sink : Sink} {number : Nat} (takes : plan.number sink = some number)
    (present : (plan.files.stored[number]?).isSome) :
    (plan.extended sent).content (.file number) = plan.files.content (.file number) ++ sent sink := by
  obtain ⟨kept, output⟩ := FileSystem.content_extendTo present (plan.number .output) (sent .output)
  obtain ⟨_, error⟩ := FileSystem.content_extendTo kept (plan.number .error) (sent .error)
  rw [Plan.extended, error, output]
  cases sink with
  | output =>
      have other : plan.number .error ≠ some number := fun same => by cases proper.numbers _ _ _ takes same
      rw [if_pos takes, if_neg other, List.append_nil]
  | error =>
      have other : plan.number .output ≠ some number := fun same => by cases proper.numbers _ _ _ takes same
      rw [if_neg other, if_pos takes, List.append_nil]

end Extended

/-! ## The end of a line -/

section Ends

variable {line : Line} {files opened : FileSystem} {redirects : Redirects} {stdin : OpenFile}
  {functions : List (Bytes → Product)} {input : Bytes} {state : State}

/-- Every stream that leaves the row is drained, unless it has a file of its own. -/
theorem mem_drained_ofLine {index : Nat} {sink : Sink} :
    (index, sink) ∈ (Plan.ofLine line opened redirects stdin functions input).row.drained line.stages.length ↔
      index < line.stages.length ∧ (sink = .error ∨ index = line.stages.length - 1) ∧
        (index = line.stages.length - 1 → redirects.taker sink = none) := by
  have exit : (Plan.ofLine line opened redirects stdin functions input).row.exit index sink = none ↔
      (index = line.stages.length - 1 → redirects.taker sink = none) := by
    obtain ⟨_, _, same⟩ := takingSlot_eq redirects sink
    unfold Row.exit
    rw [row_target, same]
    split
    · next last =>
        have here : index = line.stages.length - 1 := last
        simp [here]
    · next inner =>
        have elsewhere : index ≠ line.stages.length - 1 := inner
        simp [elsewhere]
  rw [Row.mem_drained, exit]
  rfl

/-- What the plan of a line says about its end. -/
theorem Finished.composed {viewer : Viewer} {home : Option String} {directory : String}
    (finished : Finished (.ofLine line opened redirects stdin functions input) line.stages state)
    (validated : line.openTargets files viewer home directory = (opened, .ok redirects))
    (distinct : redirects.Distinct opened stdin) (length : functions.length = line.stages.length)
    (staged : line.stages ≠ []) : Composed files line redirects functions input state := by
  have proper : (Plan.ofLine line opened redirects stdin functions input).Proper := proper_ofLine distinct length
  have positive := List.length_pos_iff.mpr staged
  have whole : compose functions input = (productAt functions input (line.stages.length - 1)).output :=
    compose_eq (by omega) input
  obtain ⟨marked, taken, marks, items⟩ := finished.taken
  have file (sink : Sink) (file : OpenFile) (takes : redirects.taker sink = some file) :
      state.files.content file.node = line.kept sink (files.content file.node) ++
        (productAt functions input (line.stages.length - 1)).stream sink := by
    obtain ⟨number, node, appends, content⟩ := Line.appends_of_openTargets validated distinct takes
    obtain ⟨stored, found, _⟩ := appends.place
    have number_eq := takingNumber_eq_some.mpr ⟨file, takes, node⟩
    rw [← content, node, finished.files]
    exact content_extended proper number_eq (Option.isSome_iff_exists.mpr ⟨stored, found⟩)
  constructor
  case outcome => exact finished.outcome
  case outputFile =>
    intro output takes
    rw [whole]
    exact file .output output takes
  case errorFile => exact file .error
  case captured =>
    refine (taken .output).trans ?_
    have last (entry : Nat × UInt8) (member : entry ∈ marked .output) :
        entry.1 = line.stages.length - 1 ∧ redirects.output = none := by
      obtain ⟨_, leads, free⟩ := mem_drained_ofLine.mp (marks .output entry member)
      have here := leads.resolve_left (fun same => nomatch same)
      exact ⟨here, free here⟩
    split
    · next toFile =>
        rw [List.map_eq_nil_iff, List.eq_nil_iff_forall_not_mem]
        intro entry member
        rw [(last entry member).2] at toFile
        cases toFile
    · next drained =>
        have free : redirects.output = none := by simpa using drained
        have member := items (line.stages.length - 1) .output
          (mem_drained_ofLine.mpr ⟨by omega, .inr rfl, fun _ => free⟩)
        rw [itemsOf_eq_map fun entry among => (last entry among).1] at member
        rw [member, whole, Drain.copied_eq]
        rfl
  case complaints =>
    refine ⟨marked .error, (taken .error).symm, ?_, ?_⟩
    · intro entry member
      rw [List.length_mapIdx]
      exact (mem_drained_ofLine.mp (marks .error entry member)).1
    · intro index part found
      rw [List.getElem?_mapIdx] at found
      obtain ⟨stage, place, rfl⟩ := Option.map_eq_some_iff.mp found
      have bound := (List.getElem?_eq_some_iff.mp place).1
      have taker : redirects.taker .error = none ↔ redirects.error.isSome = false := by
        rcases same : redirects.error with _ | own | _
        · simp [Redirects.taker, same]
        · simp [Redirects.taker, same]
        · exact absurd same distinct.own
      split
      · next toFile =>
          apply itemsOf_eq_nil
          intro entry member here
          have free := (mem_drained_ofLine.mp (marks .error entry member)).2.2 (here.trans toFile.1)
          rw [taker, toFile.2] at free
          cases free
      · next drained =>
          rw [Drain.copied_eq]
          refine items index .error (mem_drained_ofLine.mpr ⟨bound, .inl rfl, fun last => ?_⟩)
          rw [taker]
          simpa [last] using drained
  case others =>
    intro node apart
    rw [finished.files, ← Line.content_of_openTargets validated distinct.own apart]
    apply content_extended_of_ne
    intro sink number takes same
    obtain ⟨file, taken, fileNode⟩ := takingNumber_eq_some.mp takes
    exact apart sink file taken (fileNode.trans same.symm)

end Ends

/-! ## Every order of moves -/

section

variable {host : Host} {files opened : FileSystem} {stdin : OpenFile} {viewer : Viewer} {home : Option String}
  {line : Line} {redirects : Redirects} {functions : List (Bytes → Product)}

/-- The stages do what the plan of the line says, from the first move on. -/
private theorem course_of_computes
    (validated : line.openTargets files viewer home host.directory = (opened, .ok redirects))
    (foreground : line.background = false) (staged : line.stages ≠ []) (distinct : redirects.Distinct opened stdin)
    (computes : host.Computes opened line.stages functions (files.remaining (redirects.source stdin))) :
    let plan : Plan := .ofLine line opened redirects stdin functions (files.remaining (redirects.source stdin))
    plan.Proper ∧ plan.Starts host line.stages ∧
      Course plan line.stages ((State.idle files stdin).prepared opened redirects line) := by
  intro plan
  have proper : plan.Proper := proper_ofLine distinct computes.length
  refine ⟨proper, ?_, ?_⟩
  · constructor
    case length => exact (Nat.sub_add_cancel (List.length_pos_iff.mpr staged)).symm
    case program => exact fun index stage found => computes.start found
  · exact @Course.starting plan line.stages _ [] line.stages plan.ledger rfl
      (flows_prepared validated distinct foreground proper rfl) rfl rfl rfl rfl rfl

/-- The schedule that is really taken comes to the end of the line, if it is allowed enough moves, and
then carrying out the line returns. -/
theorem exists_bound_composed (roomy : 1 ≤ host.capacity)
    (validated : line.openTargets files viewer home host.directory = (opened, .ok redirects))
    (foreground : line.background = false) (staged : line.stages ≠ []) (distinct : redirects.Distinct opened stdin)
    (computes : host.Computes opened line.stages functions (files.remaining (redirects.source stdin))) :
    ∃ least, (∀ bound, least ≤ bound → Composed files line redirects functions (files.remaining (redirects.source stdin))
        (((State.idle files stdin).prepared opened redirects line).run host host.patience bound {})) ∧
      (least ≤ Program.lifetime → (execute host (State.idle files stdin) viewer home line).result ≠ none) := by
  obtain ⟨proper, starts, course⟩ := course_of_computes validated foreground staged distinct computes
  obtain ⟨least, reached⟩ := State.exists_bound_of_progress (course.exists_end proper starts)
    (fun moves state run => (course.run proper starts run).progress starts roomy) host.patience {}
  refine ⟨least, fun bound enough => ?_, fun enough => ?_⟩
  · obtain ⟨moves, run⟩ := State.exists_run host host.patience bound {}
      ((State.idle files stdin).prepared opened redirects line)
    exact ((course.run proper starts run).finished proper starts.length (reached bound enough)).composed validated
      distinct computes.length staged
  · have handedBack := reached Program.lifetime enough
    have deadline : (State.idle files stdin).clock + host.patience = host.patience := Nat.zero_add _
    simpa [execute, State.idle, validated, State.prepared, Execution.ofState, deadline] using handedBack

end

/-- A line in the foreground whose stages compute functions, and whose ends are different
regular files, computes the functions one after the other. Carrying it out is one of its
runs; no order of moves goes on for ever, and none gets stuck before something is handed
back; whatever the order, what is handed back then and what is left in the files and in
the sinks is what the functions say. The order only decides how the drained errors of
different stages are interleaved. -/
theorem composed_of_run {host : Host} (roomy : 1 ≤ host.capacity) {files opened : FileSystem} {stdin : OpenFile}
    {viewer : Viewer} {home : Option String} {line : Line} {redirects : Redirects}
    (validated : line.openTargets files viewer home host.directory = (opened, .ok redirects))
    (foreground : line.background = false) (staged : line.stages ≠ []) (distinct : redirects.Distinct opened stdin)
    {functions : List (Bytes → Product)}
    (computes : host.Computes opened line.stages functions (files.remaining (redirects.source stdin))) :
    let start := (State.idle files stdin).prepared opened redirects line
    (∃ moves state, Run host start moves state ∧ execute host (State.idle files stdin) viewer home line = .ofState state) ∧
    (∀ states : Nat → State, states 0 = start → ∃ number, ¬Step host (states number) (states (number + 1))) ∧
    (∀ moves state, Run host start moves state →
      (state.conductor.outcome = none → ∃ after, Step host state after) ∧
      (state.conductor.outcome ≠ none →
        Composed files line redirects functions (files.remaining (redirects.source stdin)) state)) ∧
    ∀ moves others state other, Run host start moves state → Run host start others other →
      state.conductor.outcome ≠ none → other.conductor.outcome ≠ none →
      state.files = other.files ∧ state.captured.toList = other.captured.toList ∧
        state.conductor.outcome = other.conductor.outcome := by
  intro start
  let plan : Plan := .ofLine line opened redirects stdin functions (files.remaining (redirects.source stdin))
  obtain ⟨proper, starts, course⟩ : plan.Proper ∧ plan.Starts host line.stages ∧ Course plan line.stages start :=
    course_of_computes validated foreground staged distinct computes
  have finished {moves : List Move} {state : State} (run : Run host start moves state)
      (handedBack : state.conductor.outcome ≠ none) : Finished plan line.stages state :=
    (course.run proper starts run).finished proper starts.length handedBack
  have composed {moves : List Move} {state : State} (run : Run host start moves state)
      (handedBack : state.conductor.outcome ≠ none) :
      Composed files line redirects functions (files.remaining (redirects.source stdin)) state :=
    (finished run handedBack).composed validated distinct computes.length staged
  refine ⟨?_, course.exists_end proper starts, ?_, ?_⟩
  · obtain ⟨moves, run⟩ := @exists_run_execute host (State.idle files stdin) viewer home line opened redirects validated
    exact ⟨moves, _, run, @execute_eq_ofState host (State.idle files stdin) viewer home line opened redirects validated⟩
  · intro moves state run
    exact ⟨(course.run proper starts run).progress starts roomy, composed run⟩
  · intro moves others state other run runOther handedBack handedBackOther
    have first := finished run handedBack
    have second := finished runOther handedBackOther
    refine ⟨first.files.trans second.files.symm, ?_, first.outcome.trans second.outcome.symm⟩
    rw [(composed run handedBack).captured, (composed runOther handedBackOther).captured]

/-- One byte goes through two stages to the end of a file, and the first stage complains. -/
theorem composed_of_run_appended :
    let first : Program := .read 0 1 fun answer => .write 1 (answer.toOption.getD []) fun _ => .write 2 [33] fun _ =>
      .exit .success
    let second : Program := .read 0 1 fun answer => .write 1 (answer.toOption.getD []) fun _ => .exit (.code 3)
    let host : Host := { Host.still with start := fun pid _ _ => .ok (if pid = 2 then first else second) }
    let functions : List (Bytes → Product) := [fun bytes => ⟨bytes, [33], .success⟩, fun bytes => ⟨bytes, [], .code 3⟩]
    let files : FileSystem := {
      entries := [([], .directory ⟨0o755, 0⟩), (["in"], .file 0), (["out"], .file 1)]
      stored := [⟨⟨0o644, 0⟩, [97]⟩, ⟨⟨0o644, 0⟩, [120]⟩] }
    let line : Line := { stages := [⟨["tee"]⟩, ⟨["cat"]⟩], input := some "in", output := some ⟨"out", true⟩ }
    let redirects : Redirects :=
      { input := some { node := .file 0, writable := false }, output := some (.ofMode .append (.file 1)) }
    let start := (State.idle files .null).prepared files redirects line
    line.openTargets files ⟨0, [], 0⟩ "/" host.directory = (files, .ok redirects) ∧
      ∃ moves state, Run host start moves state ∧ state.complaints.toList = [33, 10] ∧
        state.files.content (.file 1) = [120, 97] ∧ Composed files line redirects functions [97] state := by
  intro first second host functions files line redirects start
  have validated : line.openTargets files ⟨0, [], 0⟩ "/" host.directory = (files, .ok redirects) := by cbv
  have distinct : redirects.Distinct files .null := by
    constructor
    case source => exact ⟨rfl, .inl ⟨0, rfl⟩⟩
    case own => exact fun same => by cases same
    case regular =>
      intro sink file taken
      cases sink <;> cases taken
      rfl
    case input =>
      intro sink file taken
      cases sink <;> cases taken
      exact fun same => by cases same
    case outputs => exact fun _ _ _ taken => by cases taken
  have computes : host.Computes files line.stages functions (files.remaining (redirects.source .null)) := by
    -- The only byte of the input comes with the first read.
    have single (data rest : Bytes) (split : [97] = data ++ rest) (empty : data = [] → rest = []) :
        data = [97] ∧ rest = [] := by
      rcases List.append_eq_singleton_iff.mp split.symm with ⟨none, all⟩ | whole
      · cases all.symm.trans (empty none)
      · exact whole
    refine ⟨rfl, fun index stage function found foundFunction => ⟨_, rfl, ?_⟩⟩
    rcases index with _ | _ | index
    · cases foundFunction
      refine .read Nat.one_pos fun data rest split _ empty => ?_
      obtain ⟨rfl, rfl⟩ := single data rest split empty
      exact @Program.Yields.write .output [97] _ [] ⟨[], [33], .success⟩
        (@Program.Yields.write .error [33] _ [] ⟨[], [], .success⟩ .exit)
    · cases foundFunction
      refine .read Nat.one_pos fun data rest split _ empty => ?_
      obtain ⟨rfl, rfl⟩ := single data rest split empty
      exact @Program.Yields.write .output [97] _ [] ⟨[], [], .code 3⟩ .exit
    · cases foundFunction
  obtain ⟨moves, run⟩ := State.exists_run_of_follow (rfl : start.follow host [.conductor, .conductor, .conductor,
    .process 0, .process 0, .process 1, .process 1, .process 1, .process 0, .process 0, .copier 0, .copier 0, .copier 0,
    .copier 0, .copier 1, .conductor, .conductor, .conductor, .conductor, .conductor] = some _)
  have composed := ((composed_of_run (Nat.le_refl 1) validated rfl (List.cons_ne_nil _ _) distinct computes).2.2.1
    moves _ run).2 (fun none => by cases none)
  exact ⟨validated, moves, _, run, rfl, rfl, composed⟩

end PipeShell.Pipeline
