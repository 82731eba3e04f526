import Mathlib
import PipeShell.Proofs.Redirects.Opening
import PipeShell.Proofs.System.Opening

/-! # What is left when a target cannot be opened

All targets are checked first, but a check does not see everything that opening needs.
The input is opened before the output, and opening the output is all that happens to
the files before the errors, so only a failure there leaves anything behind. -/

set_option autoImplicit false

namespace PipeShell

open PipeShell.System

namespace Targets

variable {files after : FileSystem} {viewer : Viewer} {targets : Targets}

private theorem openWrite_of_openOutput {target : Option (Target × WriteMode)} {error : ExecError}
    (failed : openOutput files viewer target = .error error) :
    ∃ output mode failure, target = some (output, mode) ∧ error = ioError output failure ∧
      files.openWrite viewer mode output.path = .error failure := by
  cases target with
  | none => cases failed
  | some target =>
      obtain ⟨output, mode⟩ := target
      simp only [openOutput] at failed
      split at failed
      · cases failed
      · next failure refused =>
          cases failed
          exact ⟨output, mode, failure, rfl, rfl, refused⟩

private theorem openWrite_of_openError {error : ExecError} (failed : openError files viewer targets = .error error) :
    ∃ target mode failure, targets.error = some (target, mode) ∧ error = ioError target failure ∧
      files.openWrite viewer mode target.path = .error failure := by
  unfold openError at failed
  split at failed
  · cases failed
  · split at failed
    · cases failed
    · next refused =>
        cases failed
        exact openWrite_of_openOutput refused

end Targets

/-- The output of a line was opened and the file for its errors could not be. -/
structure Targets.ErrorRefused (targets : Targets) (files : FileSystem) (viewer : Viewer) (after : FileSystem)
    (mode : WriteMode) (file : OpenFile) (written : String) (failure : Failure) : Prop where
  output : ∃ output, targets.output = some (output, mode) ∧ files.openWrite viewer mode output.path = .ok (after, file)
  error : ∃ error errorMode, targets.error = some (error, errorMode) ∧ error.written = written ∧
    after.openWrite viewer errorMode error.path = .error failure

private theorem Targets.files_of_openAll_io {files after : FileSystem} {viewer : Viewer} {targets : Targets}
    {written : String} {failure : Failure}
    (failed : targets.openAll files viewer = (after, .error (.io written failure))) :
    after = files ∨ ∃ mode file, targets.ErrorRefused files viewer after mode file written failure := by
  have opening := Targets.opening files viewer targets
  rw [failed] at opening
  cases opening with
  | inputFailed => exact .inl rfl
  | outputFailed => exact .inl rfl
  | errorFailed input output error =>
      -- Only now an output, if there is one, was opened before the failure.
      cases line : targets.output with
      | none =>
          rw [line] at output
          cases output
          exact .inl rfl
      | some target =>
          rw [line] at output
          obtain ⟨file, _, opened⟩ := Targets.openWrite_of_openOutput_some output
          obtain ⟨refusedTarget, errorMode, _, errorLine, same, refused⟩ := Targets.openWrite_of_openError error
          cases same
          exact .inr ⟨target.2, file, ⟨target.1, line, opened⟩, ⟨refusedTarget, errorMode, errorLine, rfl, refused⟩⟩

/-- If a target passes its check and still cannot be opened, all files are as they were,
unless it is the file for the errors and the output was opened before. Then opening the
output is all that happened: its file was created empty if it was missing, and emptied if
it was there and is not appended to. Nothing is said of what is stored below the
directory of the descriptors, where no path leads. -/
theorem Line.files_of_openTargets_io {line : Line} {files after : FileSystem} {viewer : Viewer}
    {home : Option String} {directory written : String} {failure : Failure}
    (failed : line.openTargets files viewer home directory = (after, .error (.io written failure))) :
    (line.targets home directory).unfit? files viewer = none ∧
      (after = files ∨ ∃ mode file,
        (line.targets home directory).ErrorRefused files viewer after mode file written failure ∧
        files.Opened viewer mode after file ∧
        ∀ place, place.dropLast ≠ FileSystem.descriptorDirectory →
          (∀ stored, files.file? place = some stored → after.file? place = some
            (if mode = .truncate ∧ files.get? place = some file.node then { stored with content := [] }
              else stored)) ∧
          (after.get? place = files.get? place ∨ files.get? place = none ∧ after.get? place = some file.node ∧
            after.fileOf? file.node = some ⟨FileSystem.newFile viewer, []⟩)) := by
  unfold openTargets at failed
  dsimp only at failed
  split at failed
  · cases failed
  · next fit =>
      refine ⟨fit, ?_⟩
      rcases Targets.files_of_openAll_io failed with same | ⟨mode, file, refused⟩
      · exact .inl same
      · obtain ⟨output, _, outputOpened⟩ := refused.output
        have opened := FileSystem.opened_of_openWrite outputOpened
        refine .inr ⟨mode, file, refused, opened, fun place visible => ⟨?_, opened.get?_eq place visible⟩⟩
        exact fun stored found => opened.file?_eq visible found

/-- The output is emptied although the file for the errors, whose directory is missing,
cannot be opened. -/
theorem Line.files_of_openTargets_io_emptied :
    let files : FileSystem :=
      { entries := [([], .directory ⟨0o755, 0⟩), (["a"], .file 0)], stored := [⟨⟨0o644, 0⟩, [112, 10]⟩] }
    let line : Line := { stages := [⟨["x"]⟩], output := some ⟨"a", false⟩, error := some ⟨"b/c", false⟩ }
    let after := files.setFile 0 ⟨⟨0o644, 0⟩, []⟩
    line.openTargets files ⟨0, [], 0⟩ (some "/") "/" = (after, .error (.io "b/c" (.os .noEntry))) ∧
      ∃ mode file, (line.targets (some "/") "/").ErrorRefused files ⟨0, [], 0⟩ after mode file "b/c" (.os .noEntry) ∧
        files.Opened ⟨0, [], 0⟩ mode after file := by
  intro files line after
  have failed : line.openTargets files ⟨0, [], 0⟩ (some "/") "/" = (after, .error (.io "b/c" (.os .noEntry))) := by cbv
  have changed : after ≠ files := fun same => absurd (congrArg FileSystem.stored same) (by decide)
  obtain ⟨mode, file, refused, opened, _⟩ := (files_of_openTargets_io failed).2.resolve_left changed
  exact ⟨failed, mode, file, refused, opened⟩

/-- So it is not true that such a failure always leaves all files as they were. -/
theorem Line.not_unchanged_of_openTargets_io :
    ¬ ∀ (line : Line) (files after : FileSystem) (viewer : Viewer) (home : Option String) (directory written : String)
        (failure : Failure),
      line.openTargets files viewer home directory = (after, .error (.io written failure)) →
        ∀ place, after.get? place = files.get? place ∧ after.file? place = files.file? place := by
  intro unchanged
  let files : FileSystem :=
    { entries := [([], .directory ⟨0o755, 0⟩), (["a"], .file 0)], stored := [⟨⟨0o644, 0⟩, [112, 10]⟩] }
  let line : Line := { stages := [⟨["x"]⟩], output := some ⟨"a", false⟩, error := some ⟨"b/c", false⟩ }
  have failed : line.openTargets files ⟨0, [], 0⟩ (some "/") "/" =
    (files.setFile 0 ⟨⟨0o644, 0⟩, []⟩, .error (.io "b/c" (.os .noEntry))) := by cbv
  have same := unchanged line files _ ⟨0, [], 0⟩ (some "/") "/" "b/c" (.os .noEntry) failed ["a"]
  exact absurd same.2 (by decide)

end PipeShell
