import PipeShell.Proofs.Shell.Requests

/-! # The course of a session

Nothing ends a session but a line that asks for it, the end of the input, a failure to read,
or a signal that kills the shell. Until then every line that was read is carried out before
the next one, in the directory where the last change of directory that succeeded has led. -/

set_option autoImplicit false

namespace PipeShell

open PipeShell.System

/-! ## Reading a record -/

namespace Exchange

def request? : Exchange → Option Request
  | resolve _ target _ => some (.move target)
  | execute _ line _ => some (.run line)
  | _ => none

def directory? : Exchange → Option String
  | resolve directory _ _ => some directory
  | execute directory _ _ => some directory
  | _ => none

def moved? : Exchange → Option String
  | resolve _ _ (.ok directory) => some directory
  | _ => none

def isSave : Exchange → Bool
  | save _ _ => true
  | _ => false

end Exchange

def requestsOf (record : List Exchange) : List Request := record.filterMap Exchange.request?

def directoryAfter (initial : String) (record : List Exchange) : String :=
  (record.filterMap Exchange.moved?).getLast?.getD initial

private theorem directoryAfter_cons (initial : String) (entry : Exchange) (record : List Exchange) :
    directoryAfter initial (entry :: record) = directoryAfter (entry.moved?.getD initial) record := by
  unfold directoryAfter
  rw [List.filterMap_cons]
  cases entry.moved? with
  | none => rfl
  | some directory => rw [List.getLast?_cons, Option.getD_some, Option.getD_some]

theorem filterMap_cons_toList {α β : Type} (f : α → Option β) (item : α) (items : List α) :
    (item :: items).filterMap f = (f item).toList ++ items.filterMap f := by
  rw [List.filterMap_cons]
  cases f item <;> rfl

theorem concat_prefix_cons {first entry : Exchange} {asked record : List Exchange}
    (made : asked ++ [entry] <+: first :: record) :
    asked = [] ∧ entry = first ∨ ∃ later, asked = first :: later ∧ later ++ [entry] <+: record := by
  cases asked with
  | nil => exact .inl ⟨rfl, (List.cons_prefix_cons.mp made).1⟩
  | cons head later =>
      obtain ⟨rfl, rest⟩ := List.cons_prefix_cons.mp made
      exact .inr ⟨later, rfl, rest⟩

namespace Asks

variable {directory after : String} {request : Option Request} {record : List Exchange}

private theorem not_isSave (asks : Asks directory request record after) : ∀ entry ∈ record, entry.isSave = false := by
  induction asks with
  | nothing => exact fun _ member => absurd member List.not_mem_nil
  | read _ ih | move _ ih | run _ ih => exact List.forall_mem_cons.mpr ⟨rfl, ih⟩

/-- Everything is asked for that was read, and nothing else. -/
theorem requests_eq (asks : Asks directory request record after) :
    requestsOf record = request.toList ++ (outcomesOf record).filterMap ReadOutcome.request? := by
  induction asks with
  | nothing => rfl
  | read _ ih => exact ih.trans (filterMap_cons_toList _ _ _).symm
  | move _ ih | run _ ih => exact congrArg _ ih

theorem settled (asks : Asks directory request record after) {asked : List Exchange} {outcome : ReadOutcome}
    (made : asked ++ [.read outcome] <+: record) :
    requestsOf asked = request.toList ++ (outcomesOf asked).filterMap ReadOutcome.request? := by
  induction asks generalizing asked with
  | nothing => exact absurd made (by simp)
  | read _ ih =>
      rcases concat_prefix_cons made with ⟨rfl, _⟩ | ⟨later, rfl, rest⟩
      · rfl
      · exact (ih rest).trans (filterMap_cons_toList _ _ _).symm
  | move _ ih | run _ ih =>
      rcases concat_prefix_cons made with ⟨_, other⟩ | ⟨later, rfl, rest⟩
      · cases other
      · exact congrArg _ (ih rest)

/-- Everything is asked for where the last change of directory that succeeded has led. -/
theorem directory_eq (asks : Asks directory request record after) {asked : List Exchange} {entry : Exchange}
    {named : String} (made : asked ++ [entry] <+: record) (place : entry.directory? = some named) :
    named = directoryAfter directory asked := by
  induction asks generalizing asked with
  | nothing => exact absurd made (by simp)
  | read _ ih =>
      rcases concat_prefix_cons made with ⟨_, rfl⟩ | ⟨later, rfl, rest⟩
      · cases place
      · rw [directoryAfter_cons]
        exact ih rest
  | @move _ _ _ answer _ _ ih =>
      rcases concat_prefix_cons made with ⟨rfl, rfl⟩ | ⟨later, rfl, rest⟩
      · exact (Option.some.inj place).symm
      · rw [directoryAfter_cons]
        cases answer <;> exact ih rest
  | run _ ih =>
      rcases concat_prefix_cons made with ⟨rfl, rfl⟩ | ⟨later, rfl, rest⟩
      · exact (Option.some.inj place).symm
      · rw [directoryAfter_cons]
        exact ih rest

end Asks

/-- Why a session is over that read this and was allowed so many lines: what it read last ended
it, and nothing before; or nothing that it read ended it, but the signal or the limit. -/
inductive Over (bound : Nat) (outcomes : List ReadOutcome) (signal? : Option Nat) : Ending → Prop where
  | stopped {earlier : List ReadOutcome} {last : ReadOutcome} {ending : Ending} : outcomes = earlier ++ [last] →
      (∀ outcome ∈ earlier, outcome.ending? = none) → last.ending? = some ending → Over bound outcomes signal? ending
  | killed {signal : Nat} : (∀ outcome ∈ outcomes, outcome.ending? = none) → signal? = some signal →
      Over bound outcomes signal? (.killed signal)
  | exhausted : (∀ outcome ∈ outcomes, outcome.ending? = none) → outcomes.length = bound →
      Over bound outcomes signal? .exhausted

namespace Over

variable {bound : Nat} {outcomes : List ReadOutcome} {signal? : Option Nat} {ending : Ending}

private theorem later {outcome : ReadOutcome} (goes : outcome.ending? = none)
    (reason : Over bound outcomes signal? ending) : Over (bound + 1) (outcome :: outcomes) signal? ending := by
  cases reason with
  | @stopped earlier last _ split before ends =>
      have longer : outcome :: outcomes = (outcome :: earlier) ++ [last] := congrArg (outcome :: ·) split
      exact .stopped longer (List.forall_mem_cons.mpr ⟨goes, before⟩) ends
  | killed quiet signal => exact .killed (List.forall_mem_cons.mpr ⟨goes, quiet⟩) signal
  | exhausted quiet length => exact .exhausted (List.forall_mem_cons.mpr ⟨goes, quiet⟩) (congrArg (· + 1) length)

private theorem alive (reason : Over bound outcomes signal? ending) (lives : ∀ signal, ending ≠ .killed signal)
    (other : Option Nat) : Over bound outcomes other ending := by
  cases reason with
  | stopped split before ends => exact .stopped split before ends
  | killed => exact absurd rfl (lives _)
  | exhausted quiet length => exact .exhausted quiet length

end Over

namespace Shell

variable {σ : Type} (world : World σ) (look : Look)

/-- Until it is over, a session asks for what it reads. -/
theorem recorded_loop (bound : Nat) (shell : Shell σ) (past : List Exchange) :
    ∃ ending after record, shell.loop world look bound = (ending, after) ∧
      (shell.recorded past).loop world.recording look bound = (ending, after.recorded (past ++ record)) ∧
      Asks shell.session.directory none record after.session.directory ∧
      Over bound (outcomesOf record) (world.killedBy after.world) ending := by
  -- Nothing that a line does can end the loop but asking for it, so the rest of the session
  -- is the one of the shell that the line leaves behind, with a longer record.
  induction bound generalizing shell past with
  | zero =>
      refine ⟨.exhausted, shell, [], rfl, ?_, .nothing, .exhausted (by simp [outcomesOf]) rfl⟩
      rw [List.append_nil, loop]
  | succ bound ih =>
      rcases waited : world.read (shell.prompt look) shell.world with ⟨outcome, state⟩
      simp only [loop, recorded_world, recorded_prompt, World.recording_read, waited, recorded_become]
      cases outcome with
      | line text =>
          obtain ⟨flow, after, made, handled, recorded, asks, reads, ends⟩ :=
            recorded_handle world look { shell with world := state } (past ++ [.read (.line text)]) text
          have outcomes (record : List Exchange) :
              outcomesOf (.read (.line text) :: (made ++ record)) = .line text :: outcomesOf record := by
            have silent : made.filterMap Exchange.outcome? = [] := reads
            simp [outcomesOf, Exchange.outcome?, silent]
          simp only [handled, recorded]
          cases flow with
          | leave =>
              refine ⟨.left, _, .read (.line text) :: (made ++ []), rfl, ?_, .read (asks.append .nothing), ?_⟩
              · simp [recorded_print]
              · rw [outcomes]
                exact .stopped (List.nil_append _).symm (by simp) ends
          | stay =>
              simp only [recorded_world, World.recording_killedBy]
              cases dead : world.killedBy after.world with
              | some signal =>
                  refine ⟨.killed signal, after, .read (.line text) :: (made ++ []), rfl, ?_,
                    .read (asks.append .nothing), ?_⟩
                  · simp
                  · rw [outcomes]
                    exact .killed (by simpa [outcomesOf] using ends) dead
              | none =>
                  obtain ⟨ending, last, record, looped, recordedLater, asksLater, reason⟩ :=
                    ih after (past ++ [.read (.line text)] ++ made)
                  refine ⟨ending, last, .read (.line text) :: (made ++ record), looped, ?_,
                    .read (asks.append asksLater), ?_⟩
                  · simpa using recordedLater
                  · rw [outcomes]
                    exact reason.later ends
      | interrupted =>
          obtain ⟨ending, last, record, looped, recorded, asks, reason⟩ :=
            ih (Shell.print world (look.theme.warning.paint look.colour (Theme.message "interrupt_signal"))
              { shell with world := state }) (past ++ [.read .interrupted])
          refine ⟨ending, last, .read .interrupted :: record, looped, ?_, .read asks, reason.later rfl⟩
          simpa [recorded_print] using recorded
      | ended =>
          refine ⟨.ended, _, [.read .ended], rfl, ?_, .read .nothing, .stopped (List.nil_append _).symm (by simp) rfl⟩
          simp only [recorded_note, recorded_print]
      | failed failure =>
          refine ⟨.failed failure, _, [.read (.failed failure)], rfl, ?_, .read .nothing,
            .stopped (List.nil_append _).symm (by simp) rfl⟩
          simp only [recorded_note]

/-! ## From the greeting to the end -/

/-- How a session goes that leaves this record. -/
structure Course (world : World σ) (initial : String) (bound : Nat) (record : List Exchange) (ending : Ending)
    (after : Shell σ) : Prop where
  /-- It is over because of what it read last, if no signal killed the shell. -/
  reason : Over bound (outcomesOf record) (world.killedBy after.world) ending
  /-- It makes its requests in the order in which it read them. -/
  requests : requestsOf record = (outcomesOf record).filterMap ReadOutcome.request?
  /-- It makes them all before it reads on. -/
  settled : ∀ asked outcome, asked ++ [.read outcome] <+: record →
    requestsOf asked = (outcomesOf asked).filterMap ReadOutcome.request?
  /-- It makes each of them where the last change of directory that succeeded has led. -/
  place : ∀ asked entry directory, asked ++ [entry] <+: record → entry.directory? = some directory →
    directory = directoryAfter initial asked
  /-- It stores its history once, when everything else is done. -/
  saved : (∀ signal, ending ≠ .killed signal) → ∃ asked answer, record = asked ++ [.save after.history answer] ∧
    ∀ entry ∈ asked, entry.isSave = false

private theorem concat_prefix_save {asked record : List Exchange} {entry : Exchange} {history : History}
    {answer : Except Failure Unit} (made : asked ++ [entry] <+: record ++ [.save history answer]) :
    entry = .save history answer ∨ asked ++ [entry] <+: record := by
  rcases List.prefix_concat_iff.mp made with whole | earlier
  · exact .inl (List.singleton_inj.mp (List.append_inj' whole rfl).2)
  · exact .inr earlier

/-- Storing the history comes last and is no request. -/
theorem Course.of_saved {initial directory : String} {bound : Nat} {record : List Exchange} {ending : Ending}
    {after : Shell σ} (asks : Asks initial none record directory)
    (reason : Over bound (outcomesOf record) (world.killedBy after.world) ending) {history : History}
    (same : after.history = history) (answer : Except Failure Unit) :
    Course world initial bound (record ++ [.save history answer]) ending after := by
  subst same
  have outcomes : outcomesOf (record ++ [.save after.history answer]) = outcomesOf record := by
    simp [outcomesOf, Exchange.outcome?]
  have requests : requestsOf (record ++ [.save after.history answer]) = requestsOf record := by
    simp [requestsOf, Exchange.request?]
  constructor
  · rwa [outcomes]
  · rw [requests, outcomes]
    exact asks.requests_eq
  · intro asked outcome made
    rcases concat_prefix_save made with other | earlier
    · cases other
    · exact asks.settled earlier
  · intro asked entry directory made place
    rcases concat_prefix_save made with rfl | earlier
    · cases place
    · exact asks.directory_eq earlier place
  · exact fun _ => ⟨record, answer, rfl, asks.not_isSave⟩

/-- A session that is not killed stores its history and says that it ends. -/
theorem run_of_loop {historyFile : String} {bound : Nat} {shell after : Shell σ} {ending : Ending}
    (looped : (shell.greet world look).loop world look bound = (ending, after))
    (lives : ∀ signal, ending ≠ .killed signal) :
    shell.run world look historyFile bound =
      (ending, (after.saveHistory world historyFile).note world .debug "minish exiting") := by
  unfold run
  rw [looped]
  cases ending with
  | killed signal => exact absurd rfl (lives signal)
  | left | ended | failed _ | exhausted => rfl

/-- Whatever is read, and however the world answers: the session goes on until it reads what
ends it, makes its requests in their order and in the right directories, and stores its
history at the end. That a record is kept changes nothing. -/
theorem course_run (historyFile : String) (bound : Nat) (shell : Shell σ) :
    ∃ ending after record, shell.run world look historyFile bound = (ending, after) ∧
      (shell.recorded []).run world.recording look historyFile bound = (ending, after.recorded record) ∧
      Course world shell.session.directory bound record ending after := by
  obtain ⟨ending, after, record, looped, recorded, asks, reason⟩ :=
    recorded_loop world look bound (shell.greet world look) []
  rw [List.nil_append, ← recorded_greet] at recorded
  by_cases lives : ∀ signal, ending ≠ .killed signal
  · obtain ⟨answer, saved, same⟩ := recorded_saveHistory world after record historyFile
    refine ⟨ending, _, record ++ [.save after.history answer], run_of_loop world look looped lives, ?_, ?_⟩
    · rw [run_of_loop world.recording look recorded lives, saved, recorded_note]
    · refine .of_saved world asks (reason.alive lives _) ?_ answer
      exact same
  · obtain ⟨signal, rfl⟩ : ∃ signal, ending = .killed signal := by simpa using lives
    refine ⟨.killed signal, after, record, ?_, ?_, ?_⟩
    · unfold run
      rw [looped]
    · unfold run
      rw [recorded]
    · exact ⟨reason, asks.requests_eq, fun _ _ => asks.settled, fun _ _ _ => asks.directory_eq,
        fun alive => absurd rfl (alive signal)⟩

end Shell

end PipeShell
