import PipeShell.Pipeline.State
import PipeShell.Proofs.Redirects.Opening
import PipeShell.Proofs.System.Opening

/-! # The files at the ends of a line

When all targets could be opened, and they are different regular files, each output
appends to a file of its own, which holds what it held before or nothing. -/

set_option autoImplicit false

namespace PipeShell

open PipeShell.System

def Line.target (line : Line) : Pipeline.Sink → Option OutputTarget
  | .output => line.output
  | .error => line.error

/-- What a line keeps of the bytes in the file for a sink. -/
def Line.kept (line : Line) (sink : Pipeline.Sink) (content : Bytes) : Bytes :=
  if (line.target sink).any (·.append) then content else []

namespace Redirects

/-- Where the line reads, the shell's own input being given. -/
def source (redirects : Redirects) (stdin : OpenFile) : OpenFile := redirects.input.getD stdin

def taker (redirects : Redirects) : Pipeline.Sink → Option OpenFile
  | .output => redirects.output
  | .error =>
    match redirects.error with
    | some (.own file) => some file
    | _ => none

/-- The line reads a regular file or nothing at all, writes regular files, and no two of
them are the same one. -/
structure Distinct (redirects : Redirects) (files : FileSystem) (stdin : OpenFile) : Prop where
  source : (redirects.source stdin).Supplies
  own : redirects.error ≠ some .shared
  regular : ∀ sink file, redirects.taker sink = some file → (files.fileOf? file.node).isSome
  input : ∀ sink file, redirects.taker sink = some file → file.node ≠ (redirects.source stdin).node
  outputs : ∀ output error, redirects.taker .output = some output → redirects.taker .error = some error →
    output.node ≠ error.node

end Redirects

/-! ## Opening -/

namespace Targets

variable {files left after : FileSystem} {viewer : Viewer} {targets : Targets}

/-- What opening an output leaves, if there is one. -/
inductive Opens (files : FileSystem) (viewer : Viewer) : Option WriteMode → FileSystem → Option OpenFile → Prop where
  | none : Opens files viewer none files none
  | some {mode : WriteMode} {after : FileSystem} {file : OpenFile} : files.Opened viewer mode after file →
      Opens files viewer (some mode) after (some file)

private theorem opens_of_openOutput {target : Option (Target × WriteMode)} {file : Option OpenFile}
    (opened : openOutput files viewer target = .ok (after, file)) :
    Opens files viewer (target.map Prod.snd) after file := by
  cases target with
  | none =>
      cases opened
      exact .none
  | some target =>
      simp only [openOutput] at opened
      split at opened
      · next accepted =>
          cases opened
          exact .some (FileSystem.opened_of_openWrite accepted)
      · cases opened

namespace Opens

variable {mode : Option WriteMode} {taker : Option OpenFile} {file : OpenFile}

private theorem stored_of_ne (opens : Opens files viewer mode after taker) {number : Nat}
    (others : ∀ file, taker = Option.some file → file.node ≠ .file number) :
    after.stored[number]? = files.stored[number]? := by
  cases opens with
  | none => rfl
  | some opened => exact opened.stored_of_ne (others _ rfl)

theorem content_of_ne (opens : Opens files viewer mode after taker) {node : Node}
    (others : ∀ file, taker = Option.some file → file.node ≠ node) : after.content node = files.content node := by
  cases opens with
  | none => rfl
  | some opened => exact opened.content_of_ne (others _ rfl)

private theorem appends (opens : Opens files viewer mode after (Option.some file)) (output : mode ≠ Option.some .update)
    {number : Nat} (node : file.node = .file number) {stored : File} (found : after.stored[number]? = Option.some stored) :
    file.Appends after number ∧
      after.content file.node = if mode = Option.some .append then files.content file.node else [] := by
  cases opens with
  | @some mode _ _ opened =>
      have notUpdate : mode ≠ .update := fun same => output (congrArg Option.some same)
      simpa only [Option.some.injEq] using opened.appends notUpdate node found

end Opens

/-- If the errors do not share the file of the output, their own is opened after it. -/
theorem openOutput_of_openError {error : Option ErrorEnd}
    (opened : openError files viewer targets = .ok (after, error)) (own : error ≠ some .shared) :
    ∃ file : Option OpenFile, openOutput files viewer targets.error = .ok (after, file) ∧ error = file.map .own := by
  unfold openError at opened
  split at opened
  · cases opened
    exact absurd rfl own
  · split at opened
    · next file accepted =>
        cases opened
        exact ⟨file, accepted, rfl⟩
    · cases opened

end Targets

namespace Line

variable {line : Line} {files after : FileSystem} {viewer : Viewer} {home : Option String} {directory : String} {redirects : Redirects}

/-- The output is opened first, and then the errors are. -/
theorem opens_of_openTargets (validated : line.openTargets files viewer home directory = (after, .ok redirects))
    (own : redirects.error ≠ some .shared) :
    ∃ left, Targets.Opens files viewer (line.output.map (·.mode)) left (redirects.taker .output) ∧
      Targets.Opens left viewer (line.error.map (·.mode)) after (redirects.taker .error) := by
  unfold openTargets at validated
  dsimp only at validated
  split at validated
  · cases validated
  · have opening := Targets.opening files viewer (line.targets home directory)
    rw [validated] at opening
    cases opening with
    | @opened left _ _ _ output error =>
        obtain ⟨file, accepted, same⟩ := Targets.openOutput_of_openError error own
        have errorTaker : redirects.taker .error = file := by
          rw [Redirects.taker, same]
          cases file <;> rfl
        have outputOpens := Targets.opens_of_openOutput output
        have errorOpens := Targets.opens_of_openOutput accepted
        rw [targets, Option.map_map] at outputOpens errorOpens
        rw [errorTaker]
        exact ⟨left, outputOpens, errorOpens⟩

theorem content_of_openTargets (validated : line.openTargets files viewer home directory = (after, .ok redirects))
    (own : redirects.error ≠ some .shared) {node : Node}
    (others : ∀ sink file, redirects.taker sink = some file → file.node ≠ node) :
    after.content node = files.content node := by
  obtain ⟨left, output, error⟩ := opens_of_openTargets validated own
  rw [error.content_of_ne (others .error), output.content_of_ne (others .output)]

private theorem mode_ne_update (target : Option OutputTarget) : target.map (·.mode) ≠ some .update := by
  cases target with
  | none => exact fun same => nomatch same
  | some target =>
      obtain ⟨path, append⟩ := target
      cases append <;> exact fun same => nomatch same

private theorem kept_eq (line : Line) (sink : Pipeline.Sink) (content : Bytes) :
    line.kept sink content = if (line.target sink).map (·.mode) = some .append then content else [] := by
  unfold kept
  cases line.target sink with
  | none => rfl
  | some target =>
      obtain ⟨path, append⟩ := target
      cases append <;> rfl

/-- Each file at an end of a line takes bytes at its end, and it holds what the line
keeps of it. -/
theorem appends_of_openTargets {stdin : OpenFile}
    (validated : line.openTargets files viewer home directory = (after, .ok redirects))
    (distinct : redirects.Distinct after stdin) {sink : Pipeline.Sink} {file : OpenFile}
    (taken : redirects.taker sink = some file) :
    ∃ number, file.node = .file number ∧ file.Appends after number ∧
      after.content file.node = line.kept sink (files.content file.node) := by
  obtain ⟨left, output, error⟩ := opens_of_openTargets validated distinct.own
  obtain ⟨stored, found⟩ := Option.isSome_iff_exists.mp (distinct.regular sink file taken)
  cases node : file.node with
  | directory | link | device | program | pipe =>
      rw [node] at found
      cases found
  | file number =>
      rw [node] at found
      refine ⟨number, rfl, ?_⟩
      rw [← node, kept_eq]
      cases sink with
      | error =>
          have apart (other : OpenFile) (takenOther : redirects.taker .output = some other) : other.node ≠ file.node :=
            distinct.outputs other file takenOther taken
          rw [taken] at error
          rw [← output.content_of_ne apart]
          exact error.appends (mode_ne_update _) node found
      | output =>
          -- Opening the file for the errors afterwards leaves this one alone.
          have apart (other : OpenFile) (takenOther : redirects.taker .error = some other) : other.node ≠ .file number := by
            rw [← node]
            exact (distinct.outputs file other taken takenOther).symm
          have same := error.stored_of_ne apart
          rw [taken] at output
          obtain ⟨appends, content⟩ := output.appends (mode_ne_update _) node (same.symm.trans found)
          rw [← node] at apart
          rw [error.content_of_ne apart]
          exact ⟨⟨appends.node, appends.writable, same ▸ appends.place⟩, content⟩

end Line

end PipeShell
