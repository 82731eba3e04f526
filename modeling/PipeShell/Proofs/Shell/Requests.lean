import PipeShell.Proofs.Line.Trimming
import PipeShell.Shell

/-! # What a line of input asks for

A world can keep a record of what a session asks of it. A session takes the same course
there as in the world itself, and what each of its parts asks can be read off the record.

A line of input asks for another directory, for a pipeline, for the end of the session, or
for nothing. Handling it asks the world exactly for that, in the directory of the session,
and ends the session only if the line asks for it. -/

set_option autoImplicit false

namespace PipeShell

open PipeShell.System

/-- Something that a session asks of its world, with the answer. -/
inductive Exchange where
  | read (outcome : ReadOutcome)
  | resolve (directory : String) (target : Option String) (answer : Except Failure String)
  | execute (directory : String) (line : Line) (answer : Except ExecError Pipeline.Outcome)
  | save (history : History) (answer : Except Failure Unit)

def Exchange.outcome? : Exchange → Option ReadOutcome
  | read outcome => some outcome
  | _ => none

def outcomesOf (record : List Exchange) : List ReadOutcome := record.filterMap Exchange.outcome?

variable {σ : Type}

/-- The world with a record of what was asked of it, the first entry first. -/
def World.recording (world : World σ) : World (σ × List Exchange) where
  read := fun prompt (state, record) =>
    let (outcome, after) := world.read prompt state
    (outcome, after, record ++ [.read outcome])
  resolve := fun (state, record) directory target =>
    let (answer, after) := world.resolve state directory target
    (answer, after, record ++ [.resolve directory target answer])
  execute := fun (state, record) directory line =>
    let (answer, after) := world.execute state directory line
    (answer, after, record ++ [.execute directory line answer])
  print := fun text (state, record) => (world.print text state, record)
  complain := fun text (state, record) => (world.complain text state, record)
  log := fun message (state, record) => (world.log message state, record)
  killedBy := fun (state, _) => world.killedBy state
  remember := world.remember
  save := fun history (state, record) =>
    let (answer, after) := world.save history state
    (answer, after, record ++ [.save history answer])

section

variable (world : World σ) (state : σ) (record : List Exchange)

theorem World.recording_read (prompt : String) :
    world.recording.read prompt (state, record) =
      ((world.read prompt state).1, (world.read prompt state).2, record ++ [.read (world.read prompt state).1]) := rfl

theorem World.recording_killedBy : world.recording.killedBy (state, record) = world.killedBy state := rfl

theorem World.recording_resolve (directory : String) (target : Option String) :
    world.recording.resolve (state, record) directory target =
      ((world.resolve state directory target).1, (world.resolve state directory target).2,
        record ++ [.resolve directory target (world.resolve state directory target).1]) := rfl

theorem World.recording_execute (directory : String) (line : Line) :
    world.recording.execute (state, record) directory line =
      ((world.execute state directory line).1, (world.execute state directory line).2,
        record ++ [.execute directory line (world.execute state directory line).1]) := rfl

theorem World.recording_save (history : History) :
    world.recording.save history (state, record) =
      ((world.save history state).1, (world.save history state).2,
        record ++ [.save history (world.save history state).1]) := rfl

end

namespace Shell

def recorded (shell : Shell σ) (record : List Exchange) : Shell (σ × List Exchange) :=
  { world := (shell.world, record), session := shell.session, history := shell.history }

variable (world : World σ) (look : Look) (shell : Shell σ) (record : List Exchange)

theorem recorded_world : (shell.recorded record).world = (shell.world, record) := rfl

theorem recorded_prompt : (shell.recorded record).prompt look = shell.prompt look := rfl

theorem recorded_become (state : σ) (later : List Exchange) :
    { shell.recorded record with world := (state, later) } = Shell.recorded { shell with world := state } later := rfl

/-! ## What is only said -/

theorem recorded_print (text : String) :
    (shell.recorded record).print world.recording text = (shell.print world text).recorded record := rfl

theorem recorded_report (label text : String) :
    (shell.recorded record).report world.recording look label text =
      (shell.report world look label text).recorded record := rfl

theorem recorded_note (severity : Severity) (text : String) :
    (shell.recorded record).note world.recording severity text = (shell.note world severity text).recorded record := rfl

theorem recorded_remember (text : String) :
    { shell.recorded record with history := world.recording.remember (shell.recorded record).history text } =
      Shell.recorded { shell with history := world.remember shell.history text } record := rfl

theorem recorded_greet :
    (shell.recorded record).greet world.recording look = (shell.greet world look).recorded record := rfl

private theorem recorded_reportStatuses (statuses : List Pipeline.StageStatus) :
    (shell.recorded record).reportStatuses world.recording look statuses =
      (shell.reportStatuses world look statuses).recorded record := by
  unfold reportStatuses
  induction statuses.filter fun stage => !stage.status.isSuccess generalizing shell with
  | nil => rfl
  | cons stage rest ih => exact ih (shell.complain world _)

private theorem session_reportStatuses (statuses : List Pipeline.StageStatus) :
    (shell.reportStatuses world look statuses).session = shell.session := by
  unfold reportStatuses
  induction statuses.filter fun stage => !stage.status.isSuccess generalizing shell with
  | nil => rfl
  | cons stage rest ih => exact ih _

/-! ## What is asked -/

/-- Changing the directory asks once where the target leads, and follows the answer. -/
theorem recorded_changeDirectory (target : Option String) :
    ∃ answer, (shell.recorded record).changeDirectory world.recording look target =
        (shell.changeDirectory world look target).recorded
          (record ++ [.resolve shell.session.directory target answer]) ∧
      (shell.changeDirectory world look target).session.directory = answer.toOption.getD shell.session.directory := by
  rcases asked : world.resolve shell.world shell.session.directory target with ⟨answer, after⟩
  refine ⟨answer, ?_⟩
  simp only [changeDirectory, recorded, World.recording_resolve, asked]
  cases answer with
  | ok directory => exact ⟨rfl, rfl⟩
  | error failure => exact ⟨rfl, rfl⟩

/-- Carrying out a line asks for it once, in the directory of the session, where the session
stays. -/
theorem recorded_runLine (line : Line) :
    ∃ answer, (shell.recorded record).runLine world.recording look line =
        (shell.runLine world look line).recorded (record ++ [.execute shell.session.directory line answer]) ∧
      (shell.runLine world look line).session = shell.session := by
  rcases asked : world.execute shell.world shell.session.directory line with ⟨answer, after⟩
  refine ⟨answer, ?_⟩
  simp only [runLine, recorded, World.recording_execute, asked]
  cases answer with
  | error error => exact ⟨rfl, rfl⟩
  | ok outcome =>
      cases outcome with
      | background pid => exact ⟨rfl, rfl⟩
      | foreground statuses =>
          exact ⟨recorded_reportStatuses world look { shell with world := after } _ statuses,
            session_reportStatuses world look { shell with world := after } statuses⟩

/-- Storing the history asks for it once. -/
theorem recorded_saveHistory (path : String) :
    ∃ answer, (shell.recorded record).saveHistory world.recording path =
        (shell.saveHistory world path).recorded (record ++ [.save shell.history answer]) ∧
      (shell.saveHistory world path).history = shell.history := by
  rcases asked : world.save shell.history shell.world with ⟨answer, after⟩
  refine ⟨answer, ?_⟩
  simp only [saveHistory, recorded, World.recording_save, asked]
  cases answer with
  | ok _ => exact ⟨rfl, rfl⟩
  | error failure => exact ⟨rfl, rfl⟩

end Shell

namespace Line

private theorem ofInput_blank {input : String} (blank : Text.trim input.toList = []) : ofInput input = .ok .blank := by
  rw [ofInput, blank, Token.scan_nil]
  rfl

end Line

/-! ## Requests -/

/-- What a line may ask the world for. -/
inductive Request where
  | move (target : Option String)
  | run (line : Line)

/-- Whether the first program of a line has this name, in capitals or not. -/
def Line.asksFor (name : String) (line : Line) : Bool :=
  line.program?.any (Text.equalsIgnoringCase · name)

/-- What a line that can be parsed asks the world for. -/
def Line.request? (line : Line) : Option Request :=
  if line.asksFor "exit" then none
  else if line.asksFor "cd" then some (.move (line.stages.head?.bind (·.argv[1]?)))
  else some (.run line)

namespace ReadOutcome

/-- The line that was read, if it is one that can be parsed and is not empty. -/
def line? : ReadOutcome → Option Line
  | .line text =>
    match Line.parse text with
    | .ok line? => line?
    | .error _ => none
  | _ => none

/-- What the session has to ask the world for when it has read this. -/
def request? (outcome : ReadOutcome) : Option Request := outcome.line?.bind Line.request?

/-- How the session ends when it has read this, if it does. -/
def ending? : ReadOutcome → Option Ending
  | .line text => if (ReadOutcome.line text).line?.any (Line.asksFor "exit") then some .left else none
  | .interrupted => none
  | .ended => some .ended
  | .failed failure => some (.failed failure)

end ReadOutcome

/-- What a session asks for, from a directory and a request it has to make on: it makes the
request where it is, and reads on when there is none. Only a change of directory that
succeeds leads it somewhere else. -/
inductive Asks : String → Option Request → List Exchange → String → Prop where
  | nothing {directory : String} : Asks directory none [] directory
  | read {directory after : String} {outcome : ReadOutcome} {record : List Exchange} :
      Asks directory outcome.request? record after → Asks directory none (.read outcome :: record) after
  | move {directory after : String} {target : Option String} {answer : Except Failure String} {record : List Exchange} :
      Asks (answer.toOption.getD directory) none record after →
      Asks directory (some (.move target)) (.resolve directory target answer :: record) after
  | run {directory after : String} {line : Line} {answer : Except ExecError Pipeline.Outcome} {record : List Exchange} :
      Asks directory none record after →
      Asks directory (some (.run line)) (.execute directory line answer :: record) after

theorem Asks.append {directory middle after : String} {request : Option Request} {made record : List Exchange}
    (first : Asks directory request made middle) (rest : Asks middle none record after) :
    Asks directory request (made ++ record) after := by
  induction first with
  | nothing => exact rest
  | read _ ih => exact .read (ih rest)
  | move _ ih => exact .move (ih rest)
  | run _ ih => exact .run (ih rest)

/-! ## Built-in commands -/

namespace Line

private theorem builtin?_eq (line : Line) :
    line.builtin? = if line.asksFor "exit" then some .exit else if line.asksFor "cd" then some .cd else none := by
  unfold builtin? asksFor
  cases line.program? with
  | none => rfl
  | some program => rfl

end Line

namespace Shell

variable (world : World σ) (look : Look) (shell : Shell σ) (record : List Exchange)

/-- Handling a parsed line asks for what the line asks for, and leaves only when the line asks
for it. -/
theorem recorded_perform (line : Line) :
    ∃ flow after made, shell.perform world look line = (flow, after) ∧
      (shell.recorded record).perform world.recording look line = (flow, after.recorded (record ++ made)) ∧
      Asks shell.session.directory line.request? made after.session.directory ∧ outcomesOf made = [] ∧
      (flow = .leave ↔ line.asksFor "exit" = true) := by
  unfold perform Line.request?
  rw [Line.builtin?_eq]
  by_cases exits : line.asksFor "exit" = true
  · simp only [exits, if_true]
    exact ⟨.leave, shell, [], rfl, by rw [List.append_nil], .nothing, rfl, by simp⟩
  · simp only [exits, Bool.false_eq_true, if_false]
    by_cases moves : line.asksFor "cd" = true
    · simp only [moves, if_true]
      obtain ⟨answer, recorded, leads⟩ :=
        recorded_changeDirectory world look shell record (line.stages.head?.bind (·.argv[1]?))
      refine ⟨.stay, _, _, rfl, congrArg _ recorded, ?_, rfl, by simp⟩
      rw [leads]
      exact .move .nothing
    · simp only [moves, Bool.false_eq_true, if_false]
      obtain ⟨answer, recorded, stays⟩ := recorded_runLine world look shell record line
      refine ⟨.stay, _, _, rfl, congrArg _ recorded, ?_, rfl, by simp⟩
      rw [stays]
      exact .run .nothing

/-- Handling a line of input asks for what the line asks for, and leaves only when the line
asks for it. -/
theorem recorded_handle (input : String) :
    ∃ flow after made, shell.handle world look input = (flow, after) ∧
      (shell.recorded record).handle world.recording look input = (flow, after.recorded (record ++ made)) ∧
      Asks shell.session.directory (ReadOutcome.line input).request? made after.session.directory ∧
      outcomesOf made = [] ∧
      (ReadOutcome.line input).ending? = if flow = .leave then some .left else none := by
  -- A line of which nothing can be carried out asks for nothing.
  have nothing (absent : (ReadOutcome.line input).line? = none) (after : Shell σ)
      (stays : after.session = shell.session) :
      Asks shell.session.directory (ReadOutcome.line input).request? [] after.session.directory ∧
        outcomesOf [] = [] ∧
        (ReadOutcome.line input).ending? = if Flow.stay = .leave then some .left else none := by
    refine ⟨?_, rfl, by simp [ReadOutcome.ending?, absent]⟩
    rw [stays, ReadOutcome.request?, absent, Option.bind_none]
    exact .nothing
  unfold handle
  simp only [Line.ofInput_trim, recorded_remember, recorded_note, recorded_report]
  by_cases blank : (String.ofList (Text.trim input.toList)).isEmpty = true
  · have absent : (ReadOutcome.line input).line? = none := by
      have parsed := Line.ofInput_blank (by simpa using blank)
      simp only [ReadOutcome.line?, Line.parse, parsed]
      rfl
    simp only [blank, if_true]
    exact ⟨.stay, shell, [], rfl, by rw [List.append_nil], nothing absent shell rfl⟩
  · simp only [blank, Bool.false_eq_true, if_false]
    cases parsed : Line.ofInput input with
    | error error =>
        have absent : (ReadOutcome.line input).line? = none := by simp only [ReadOutcome.line?, Line.parse, parsed]
        exact ⟨.stay, _, [], rfl, by rw [List.append_nil], nothing absent _ rfl⟩
    | ok line =>
        by_cases empty : line.isEmpty = true
        · have absent : (ReadOutcome.line input).line? = none := by
            simp only [ReadOutcome.line?, Line.parse, parsed, empty, if_true]
          simp only [empty, if_true]
          exact ⟨.stay, _, [], rfl, by rw [List.append_nil], nothing absent _ rfl⟩
        · have read : (ReadOutcome.line input).line? = some line := by
            simp only [ReadOutcome.line?, Line.parse, parsed, empty, Bool.false_eq_true, if_false]
          simp only [empty, Bool.false_eq_true, if_false]
          let entered : Shell σ :=
            { shell with history := world.remember shell.history (String.ofList (Text.trim input.toList)) }
          obtain ⟨flow, after, made, performed, recorded, asks, reads, leaves⟩ :=
            recorded_perform world look (entered.note world .debug ("parsed line: " ++ line.shown)) record line
          refine ⟨flow, after, made, performed, recorded, ?_, reads, ?_⟩
          · rwa [ReadOutcome.request?, read, Option.bind_some]
          · simp only [ReadOutcome.ending?, read, Option.any_some, leaves]

end Shell

end PipeShell
