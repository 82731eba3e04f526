import PipeShell.Machine
import PipeShell.Proofs.Shell.Sessions

/-! # What a session remembers

The history of a session follows from the lines that it reads. Every line is trimmed before it
is handed to the line editor, and a trimmed line does not begin with a blank. So an editor that
refuses what begins with a blank never refuses a line for that: a line with blanks in front is
remembered like the same line without them, and is left out only if it is blank altogether or
repeats the line before it. -/

set_option autoImplicit false

namespace PipeShell

namespace History

/-- What is documented of a line editor that ignores lines with a blank in front: it refuses
them and what repeats the last entry, and anything else but the empty line becomes the last
entry. -/
structure Editing (remember : History → String → History) : Prop where
  blank {history : History} {line : String} : line.toList.head?.any Text.isBlank = true →
    remember history line = history
  repeated {history : History} {line : String} : history.entries.getLast? = some line →
    remember history line = history
  taken {history : History} {line : String} : line ≠ "" → line.toList.head?.any Text.isBlank = false →
    history.entries.getLast? ≠ some line → (remember history line).entries.getLast? = some line

private theorem skips_iff (history : History) (line : String) : history.skips line = true ↔
    line = "" ∨ line.toList.head?.any Text.isBlank = true ∨ history.entries.getLast? = some line := by
  unfold skips
  cases characters : line.toList with
  | nil => simpa using .inl (String.toList_eq_nil_iff.mp characters)
  | cons first rest =>
      have nonempty : line ≠ "" := by
        rintro rfl
        cases characters
      simp [nonempty]

/-- The history of the machine is kept in this way. -/
theorem editing_add : Editing add where
  blank := by
    intro history line blank
    rw [add, if_pos ((skips_iff history line).mpr (.inr (.inl blank)))]
  repeated := by
    intro history line repeated
    rw [add, if_pos ((skips_iff history line).mpr (.inr (.inr repeated)))]
  taken := by
    intro history line nonempty visible different
    have kept : ¬history.skips line = true := by
      rw [skips_iff]
      simp [nonempty, visible, different]
    rw [add, if_neg kept]
    exact List.getLast?_concat

end History

namespace Text

/-- A trimmed line does not begin with a blank. -/
theorem head?_trimmed (input : String) : (trimmed input).toList.head?.any isBlank = false := by
  have first := List.head?_dropWhile_not isBlank (trim input.toList)
  rw [← trimStart, trimStart_trim, ← toList_trimmed] at first
  cases start : (trimmed input).toList.head? with
  | none => simp
  | some c => simpa [start] using first

end Text

namespace World

variable {σ : Type} (world : World σ) (history : History)

/-- The history after a line of input: what is left of it without the blanks around it is
remembered, if anything is. -/
def entered (input : String) : History :=
  if Text.trimmed input = "" then history else world.remember history (Text.trimmed input)

def remembering (lines : List String) : History := lines.foldl world.entered history

/-- A line leaves no trace if it is blank or repeats the last entry, and for no other reason: the
last entry tells a history with the line in it from the one without. -/
theorem entered_eq_self_iff (rules : History.Editing world.remember) (input : String) :
    world.entered history input = history ↔
      Text.trimmed input = "" ∨ history.entries.getLast? = some (Text.trimmed input) := by
  unfold entered
  by_cases empty : Text.trimmed input = ""
  · simp [empty]
  · rw [if_neg empty]
    constructor
    · intro same
      refine .inr (Decidable.byContradiction fun different => different ?_)
      have last := rules.taken empty (Text.head?_trimmed input) different
      rwa [same] at last
    · intro repeated
      exact rules.repeated (repeated.resolve_left empty)

private theorem remembering_cons (input : String) (lines : List String) :
    world.remembering history (input :: lines) = world.remembering (world.entered history input) lines := by
  rw [remembering, List.foldl_cons, remembering]

end World

def ReadOutcome.text? : ReadOutcome → Option String
  | .line text => some text
  | _ => none

def linesOf (record : List Exchange) : List String := (outcomesOf record).filterMap ReadOutcome.text?

namespace Shell

variable {σ : Type} (world : World σ) (look : Look) (shell : Shell σ)

/-! ## One line -/

private theorem history_reportStatuses (statuses : List Pipeline.StageStatus) :
    (shell.reportStatuses world look statuses).history = shell.history := by
  unfold reportStatuses
  induction statuses.filter fun stage => !stage.status.isSuccess generalizing shell with
  | nil => rfl
  | cons stage rest ih => exact ih _

private theorem history_changeDirectory (target : Option String) :
    (shell.changeDirectory world look target).history = shell.history := by
  rcases asked : world.resolve shell.world shell.session.directory target with ⟨answer, after⟩
  simp only [changeDirectory, asked, print]
  cases answer with
  | ok directory => rfl
  | error failure => simp only [report, complain]

private theorem history_runLine (line : Line) : (shell.runLine world look line).history = shell.history := by
  rcases asked : world.execute shell.world shell.session.directory line with ⟨answer, after⟩
  simp only [runLine, asked]
  cases answer with
  | error error => rfl
  | ok outcome =>
      cases outcome with
      | background pid => rfl
      | foreground statuses => exact history_reportStatuses world look { shell with world := after } statuses

private theorem history_perform (line : Line) : (shell.perform world look line).2.history = shell.history := by
  unfold perform
  split
  · rfl
  · exact history_changeDirectory world look shell _
  · exact history_runLine world look shell line

/-- Whatever becomes of a line, it is remembered as it was trimmed. -/
theorem history_handle (input : String) :
    (shell.handle world look input).2.history = world.entered shell.history input := by
  unfold handle World.entered
  rw [← Text.trimmed]
  by_cases blank : Text.trimmed input = ""
  · simp [blank]
  · have filled : ¬(Text.trimmed input).isEmpty = true := by simpa using blank
    simp only [filled, blank, Bool.false_eq_true, if_false]
    generalize world.remember shell.history (Text.trimmed input) = remembered
    cases Line.ofInput (Text.trimmed input) with
    | error error => simp only [report, complain, note]
    | ok line =>
        by_cases empty : line.isEmpty = true
        · simp only [empty, if_true, note]
        · simp only [empty, Bool.false_eq_true, if_false]
          exact history_perform world look _ line

/-! ## A session -/

/-- A session that is over remembers the lines that it read, in their order. -/
theorem history_loop (bound : Nat) (shell : Shell σ) (past : List Exchange) :
    ∃ ending after record, shell.loop world look bound = (ending, after) ∧
      (shell.recorded past).loop world.recording look bound = (ending, after.recorded (past ++ record)) ∧
      after.history = world.remembering shell.history (linesOf record) := by
  induction bound generalizing shell past with
  | zero => exact ⟨.exhausted, shell, [], rfl, by rw [List.append_nil, loop], rfl⟩
  | succ bound ih =>
      rcases waited : world.read (shell.prompt look) shell.world with ⟨outcome, state⟩
      simp only [loop, recorded_world, recorded_prompt, World.recording_read, waited, recorded_become]
      cases outcome with
      | line text =>
          obtain ⟨flow, after, made, handled, recorded, _, reads, _⟩ :=
            recorded_handle world look { shell with world := state } (past ++ [.read (.line text)]) text
          have kept : after.history = world.entered shell.history text := by
            have remembered := history_handle world look { shell with world := state } text
            rwa [handled] at remembered
          have lines (record : List Exchange) :
              linesOf (.read (.line text) :: (made ++ record)) = text :: linesOf record := by
            have silent : made.filterMap Exchange.outcome? = [] := reads
            simp [linesOf, outcomesOf, Exchange.outcome?, ReadOutcome.text?, silent]
          have last : after.history = world.remembering shell.history (linesOf (.read (.line text) :: (made ++ []))) := by
            have none : linesOf [] = [] := rfl
            rw [lines, kept, World.remembering_cons, none, World.remembering, List.foldl_nil]
          simp only [handled, recorded]
          cases flow with
          | leave =>
              refine ⟨.left, _, .read (.line text) :: (made ++ []), rfl, ?_, last⟩
              simp [recorded_print]
          | stay =>
              simp only [recorded_world, World.recording_killedBy]
              cases dead : world.killedBy after.world with
              | some signal => exact ⟨.killed signal, after, .read (.line text) :: (made ++ []), rfl, by simp, last⟩
              | none =>
                  obtain ⟨ending, final, record, looped, recordedLater, remembered⟩ :=
                    ih after (past ++ [.read (.line text)] ++ made)
                  refine ⟨ending, final, .read (.line text) :: (made ++ record), looped, ?_, ?_⟩
                  · simpa using recordedLater
                  · rw [remembered, lines, kept, World.remembering_cons]
      | interrupted =>
          obtain ⟨ending, final, record, looped, recorded, remembered⟩ :=
            ih (Shell.print world (look.theme.warning.paint look.colour (Theme.message "interrupt_signal"))
              { shell with world := state }) (past ++ [.read .interrupted])
          refine ⟨ending, final, .read .interrupted :: record, looped, ?_, remembered⟩
          simpa [recorded_print] using recorded
      | ended =>
          refine ⟨.ended, _, [.read .ended], rfl, ?_, rfl⟩
          simp only [recorded_note, recorded_print]
      | failed failure =>
          refine ⟨.failed failure, _, [.read (.failed failure)], rfl, ?_, rfl⟩
          simp only [recorded_note]

/-- A session remembers the lines that it reads, each as it was trimmed, and stores what it remembers.
So a blank in front keeps no line out, although the editor refuses what begins with one: a
line stays out only if it is blank altogether or repeats the last entry. -/
theorem remembering_run (rules : History.Editing world.remember) (historyFile : String) (bound : Nat)
    (shell : Shell σ) :
    (∀ (shell : Shell σ) (input : String),
        (shell.handle world look input).2.history = world.entered shell.history input ∧
        ((shell.handle world look input).2.history = shell.history ↔
          Text.trimmed input = "" ∨ shell.history.entries.getLast? = some (Text.trimmed input)) ∧
        (input.toList.head?.any Text.isBlank = true → world.remember shell.history input = shell.history)) ∧
      ∃ ending after record, shell.run world look historyFile bound = (ending, after) ∧
        (shell.recorded []).run world.recording look historyFile bound = (ending, after.recorded record) ∧
        after.history = world.remembering shell.history (linesOf record) ∧
        ((∀ signal, ending ≠ .killed signal) → ∃ asked answer, record = asked ++ [.save after.history answer]) := by
  constructor
  · intro shell input
    have kept := history_handle world look shell input
    refine ⟨kept, ?_, rules.blank⟩
    rw [kept, world.entered_eq_self_iff shell.history rules]
  · obtain ⟨ending, after, record, looped, recorded, remembered⟩ :=
      history_loop world look bound (shell.greet world look) []
    rw [List.nil_append, ← recorded_greet] at recorded
    by_cases lives : ∀ signal, ending ≠ .killed signal
    · obtain ⟨answer, saved, same⟩ := recorded_saveHistory world after record historyFile
      have lines : linesOf (record ++ [.save after.history answer]) = linesOf record := by
        simp [linesOf, outcomesOf, Exchange.outcome?]
      refine ⟨ending, _, record ++ [.save after.history answer], run_of_loop world look looped lives, ?_, ?_,
        fun _ => ⟨record, answer, ?_⟩⟩
      · rw [run_of_loop world.recording look recorded lives, saved, recorded_note]
      · rw [lines]
        exact same.trans remembered
      · rw [← same]
        rfl
    · obtain ⟨signal, rfl⟩ : ∃ signal, ending = .killed signal := by simpa using lives
      refine ⟨.killed signal, after, record, ?_, ?_, remembered, fun alive => absurd rfl (alive signal)⟩
      · unfold run
        rw [looped]
      · unfold run
        rw [recorded]

def idleMachine : Machine where
  files := .empty
  viewer := ⟨0, [], 0o022⟩
  environment := .empty
  account := none
  reader := ⟨.null, []⟩
  threshold := .off
  stamp := ⟨1, "2000-01-31", "23:59:59"⟩
  historyFile := "/h"
  lines := .idle .empty .null

/-- The line is refused as it was read, and remembered without the tab. -/
theorem remembering_run_tab :
    let look : Look := ⟨.standard, false⟩
    let shell : Shell Machine := ⟨idleMachine, ⟨"/"⟩, ⟨["ls"], 0⟩⟩
    "\tls -l".toList.head?.any Text.isBlank = true ∧ shell.history.add "\tls -l" = shell.history ∧
      (shell.handle Machine.world look "\tls -l").2.history = ⟨["ls", "ls -l"], 1⟩ ∧
      (shell.handle Machine.world look "\tls").2.history = shell.history := by
  intro look shell
  have blank : "\tls -l".toList.head?.any Text.isBlank = true := by decide
  have each := (remembering_run Machine.world look History.editing_add "/h" 1 shell).1 shell
  obtain ⟨kept, _, refused⟩ := each "\tls -l"
  have repeated : Text.trimmed "\tls" = "" ∨ shell.history.entries.getLast? = some (Text.trimmed "\tls") :=
    .inr (by cbv)
  refine ⟨blank, refused blank, ?_, (each "\tls").2.1.mpr repeated⟩
  rw [kept]
  cbv

/-- A line that begins with a blank gets into the history. -/
theorem not_history_of_blank : ¬∀ (look : Look) (shell : Shell Machine) (input : String),
    input.toList.head?.any Text.isBlank = true →
      (shell.handle Machine.world look input).2.history.entries = shell.history.entries := by
  intro claim
  have same := claim ⟨.standard, false⟩ ⟨idleMachine, ⟨"/"⟩, {}⟩ " ls" (by decide)
  rw [history_handle] at same
  have entered : (Machine.world.entered {} " ls").entries = ["ls"] := by cbv
  exact absurd (entered.symm.trans same) (List.cons_ne_nil _ _)

end Shell

end PipeShell
