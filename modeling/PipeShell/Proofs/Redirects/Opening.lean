import PipeShell.Redirects

/-! # Ways in which opening the targets ends

Opening the targets of a line stops at the first target that cannot be opened. The
relation has one case for each place where it can stop. -/

set_option autoImplicit false

namespace PipeShell

open PipeShell.System

namespace Targets

/-- What opening the targets leaves and what it answers. -/
inductive Opening (files : FileSystem) (viewer : Viewer) (targets : Targets) :
    FileSystem → Except ExecError Redirects → Prop where
  | inputFailed {error : ExecError} : openInput files viewer targets.input = .error error →
      Opening files viewer targets files (.error error)
  | outputFailed {input : Option OpenFile} {error : ExecError} : openInput files viewer targets.input = .ok input →
      openOutput files viewer targets.output = .error error → Opening files viewer targets files (.error error)
  | errorFailed {left : FileSystem} {input output : Option OpenFile} {error : ExecError} :
      openInput files viewer targets.input = .ok input →
      openOutput files viewer targets.output = .ok (left, output) → openError left viewer targets = .error error →
      Opening files viewer targets left (.error error)
  | opened {left after : FileSystem} {redirects : Redirects} :
      openInput files viewer targets.input = .ok redirects.input →
      openOutput files viewer targets.output = .ok (left, redirects.output) →
      openError left viewer targets = .ok (after, redirects.error) →
      Opening files viewer targets after (.ok redirects)

theorem opening (files : FileSystem) (viewer : Viewer) (targets : Targets) :
    Opening files viewer targets (targets.openAll files viewer).1 (targets.openAll files viewer).2 := by
  unfold openAll
  cases input : openInput files viewer targets.input with
  | error e => exact .inputFailed input
  | ok inputFile =>
      cases output : openOutput files viewer targets.output with
      | error e => exact .outputFailed input output
      | ok opened =>
          obtain ⟨left, outputFile⟩ := opened
          cases error : openError left viewer targets with
          | error e =>
              simp only [error]
              exact .errorFailed input output error
          | ok opened =>
              obtain ⟨after, errorEnd⟩ := opened
              simp only [error]
              exact .opened input output error

theorem openWrite_of_openOutput_some {files left : FileSystem} {viewer : Viewer} {target : Target} {mode : WriteMode}
    {taker : Option OpenFile} (opened : openOutput files viewer (some (target, mode)) = .ok (left, taker)) :
    ∃ file, taker = some file ∧ files.openWrite viewer mode target.path = .ok (left, file) := by
  simp only [openOutput] at opened
  split at opened
  · next accepted =>
      cases opened
      exact ⟨_, rfl, accepted⟩
  · cases opened

private theorem isSome_of_openInput {files : FileSystem} {viewer : Viewer} {target : Option Target}
    {file : Option OpenFile} (opened : openInput files viewer target = .ok file) :
    file.isSome = target.isSome := by
  cases target with
  | none => cases opened; rfl
  | some target =>
      simp only [openInput] at opened
      split at opened
      · cases opened; rfl
      · cases opened

theorem isSome_of_openOutput {files left : FileSystem} {viewer : Viewer} {target : Option (Target × WriteMode)}
    {file : Option OpenFile} (opened : openOutput files viewer target = .ok (left, file)) :
    file.isSome = target.isSome := by
  cases target with
  | none => cases opened; rfl
  | some target =>
      simp only [openOutput] at opened
      split at opened
      · cases opened; rfl
      · cases opened

private theorem isSome_of_sharesOutput {files : FileSystem} {viewer : Viewer} {targets : Targets}
    (shares : sharesOutput files viewer targets = true) :
    targets.output.isSome = true ∧ targets.error.isSome = true := by
  unfold sharesOutput at shares
  split at shares
  · next output error => exact ⟨by simp [output], by simp [error]⟩
  · cases shares

private theorem isSome_of_openError {files left : FileSystem} {viewer : Viewer} {targets : Targets}
    {errorEnd : Option ErrorEnd} (opened : openError files viewer targets = .ok (left, errorEnd)) :
    errorEnd.isSome = targets.error.isSome ∧ (errorEnd = some .shared → targets.output.isSome = true) := by
  unfold openError at opened
  split at opened
  · next shares =>
      cases opened
      obtain ⟨output, error⟩ := isSome_of_sharesOutput shares
      exact ⟨error.symm, fun _ => output⟩
  · split at opened
    · next file own =>
        cases opened
        refine ⟨by rw [Option.isSome_map, isSome_of_openOutput own], ?_⟩
        intro shared
        cases file <;> cases shared
    · cases opened

end Targets

/-- There is an open file for each end that the line names, and for no other. -/
structure Redirects.Fits (redirects : Redirects) (line : Line) : Prop where
  input : redirects.input.isSome = line.input.isSome
  output : redirects.output.isSome = line.output.isSome
  error : redirects.error.isSome = line.error.isSome
  shared : redirects.error = some .shared → redirects.output.isSome = true

theorem Line.fits_of_openTargets {line : Line} {files left : FileSystem} {viewer : Viewer} {home : Option String}
    {directory : String} {redirects : Redirects} (validated : line.openTargets files viewer home directory = (left, .ok redirects)) :
    redirects.Fits line := by
  unfold openTargets at validated
  dsimp only at validated
  split at validated
  · cases validated
  · have opening := Targets.opening files viewer (line.targets home directory)
    rw [validated] at opening
    cases opening with
    | opened input output error =>
        have outputFits := Targets.isSome_of_openOutput output
        obtain ⟨errorFits, shared⟩ := Targets.isSome_of_openError error
        refine ⟨?_, ?_, ?_, fun same => outputFits.trans (shared same)⟩
        · rw [Targets.isSome_of_openInput input, targets, Option.isSome_map]
        · rw [outputFits, targets, Option.isSome_map]
        · rw [errorFits, targets, Option.isSome_map]

end PipeShell
