import Mathlib
import PipeShell.Proofs.Redirects.Ends
import PipeShell.Proofs.System.Denoting

/-! # What is written to the ends of a line

If the output and the errors of a line go to one file, it takes whatever is written to
either, in order; if they go to different files, each takes its own. Which of the two it is
depends on where the paths lead once the output is open. -/

set_option autoImplicit false

namespace PipeShell

open PipeShell.System

namespace Redirects

def writeTo (redirects : Redirects) (files : FileSystem) (sink : Pipeline.Sink) (data : Bytes) :
    FileSystem × Redirects :=
  match sink with
  | .output => redirects.writeOutput files data
  | .error => redirects.writeError files data

/-- Makes some writes to the ends, one after the other. -/
def writeAll (redirects : Redirects) (files : FileSystem) : List (Pipeline.Sink × Bytes) → FileSystem × Redirects
  | [] => (files, redirects)
  | (sink, data) :: rest =>
    let (files, redirects) := redirects.writeTo files sink data
    redirects.writeAll files rest

/-- The bytes among some writes that are for one of the ends. -/
def bytesFor (sink : Pipeline.Sink) (writes : List (Pipeline.Sink × Bytes)) : Bytes :=
  (writes.filter (·.1 = sink)).flatMap Prod.snd

section

variable {redirects : Redirects} {files : FileSystem} {number otherNumber : Nat} {file other : OpenFile}

theorem writeOutput_eq (output : redirects.output = some file) (appends : file.Appends files number) (data : Bytes) :
    ∃ later, redirects.writeOutput files data = (files.extend number data, { redirects with output := some later }) ∧
      later.Appends (files.extend number data) number := by
  obtain ⟨later, written, appendsLater⟩ := appends.write data
  exact ⟨later, by simp only [writeOutput, output, written], appendsLater⟩

private theorem writeError_eq (error : redirects.error = some (.own file)) (appends : file.Appends files number)
    (data : Bytes) :
    ∃ later, redirects.writeError files data =
        (files.extend number data, { redirects with error := some (.own later) }) ∧
      later.Appends (files.extend number data) number := by
  obtain ⟨later, written, appendsLater⟩ := appends.write data
  exact ⟨later, by simp only [writeError, error, written], appendsLater⟩

theorem content_extend_of_appends (appends : file.Appends files number) (data : Bytes) :
    (files.extend number data).content (.file number) = files.content (.file number) ++ data := by
  obtain ⟨stored, found, _⟩ := appends.place
  exact FileSystem.content_extend files found data

/-- One open file takes all writes. -/
theorem content_writeAll_shared (output : redirects.output = some file) (error : redirects.error = some .shared)
    (appends : file.Appends files number) (writes : List (Pipeline.Sink × Bytes)) :
    (redirects.writeAll files writes).1.content (.file number) =
      files.content (.file number) ++ writes.flatMap Prod.snd := by
  induction writes generalizing redirects files file with
  | nil => exact (List.append_nil _).symm
  | cons write rest ih =>
      obtain ⟨sink, data⟩ := write
      obtain ⟨later, written, appendsLater⟩ := writeOutput_eq output appends data
      have wrote : redirects.writeTo files sink data =
          (files.extend number data, { redirects with output := some later }) := by
        cases sink with
        | output => exact written
        | error =>
            have passed : redirects.writeError files data = redirects.writeOutput files data := by
              simp only [writeError, error]
            exact passed.trans written
      have step := ih (rfl : Redirects.output { redirects with output := some later } = some later) error appendsLater
      simp only [writeAll, wrote]
      rw [step, content_extend_of_appends appends, List.append_assoc, List.flatMap_cons]

/-- Two open files of different stored ones take a write each. -/
theorem content_writeAll_own (output : redirects.output = some file) (error : redirects.error = some (.own other))
    (appends : file.Appends files number) (otherAppends : other.Appends files otherNumber)
    (different : number ≠ otherNumber) (writes : List (Pipeline.Sink × Bytes)) :
    (redirects.writeAll files writes).1.content (.file number) =
        files.content (.file number) ++ bytesFor .output writes ∧
      (redirects.writeAll files writes).1.content (.file otherNumber) =
        files.content (.file otherNumber) ++ bytesFor .error writes := by
  induction writes generalizing redirects files file other with
  | nil => exact ⟨(List.append_nil _).symm, (List.append_nil _).symm⟩
  | cons write rest ih =>
      obtain ⟨sink, data⟩ := write
      cases sink with
      | output =>
          obtain ⟨later, written, appendsLater⟩ := writeOutput_eq output appends data
          have step := ih (rfl : Redirects.output { redirects with output := some later } = some later) error appendsLater
            (otherAppends.extend_other different data)
          simp only [writeAll, writeTo, written]
          rw [step.1, step.2, content_extend_of_appends appends,
            FileSystem.content_extend_of_ne files (fun same => different (Node.file.inj same).symm)]
          simp [bytesFor]
      | error =>
          obtain ⟨later, written, appendsLater⟩ := writeError_eq error otherAppends data
          have kept : Redirects.output { redirects with error := some (.own later) } = some file := output
          have step := ih kept rfl
            (appends.extend_other different.symm data) appendsLater
          simp only [writeAll, writeTo, written]
          rw [step.1, step.2, content_extend_of_appends otherAppends,
            FileSystem.content_extend_of_ne files (fun same => different (Node.file.inj same))]
          simp [bytesFor]

end

end Redirects

/-! ## One file or two -/

namespace Targets

variable {files left : FileSystem} {viewer : Viewer}

/-- Paths that lead to different places are not taken for the same. -/
theorem place_of_sameFile (plain : files.Plain) {path other : String} {place otherPlace : Location}
    {number otherNumber : Nat} (same : sameFile files viewer path other = true)
    (denotes : files.Denotes viewer path place number) (otherwise : files.Denotes viewer other otherPlace otherNumber) :
    place = otherPlace := by
  rcases Bool.or_eq_true_iff.mp same with spelled | found
  · exact (denotes.of_same plain spelled otherwise).1
  · split at found
    · next first second canonical otherCanonical =>
        obtain rfl := denotes.of_canonical canonical
        obtain rfl := otherwise.of_canonical otherCanonical
        exact eq_of_beq found
    · cases found

/-- Paths with different files are not taken for the same. -/
theorem number_of_sameFile (plain : files.Plain) {path other : String} {place otherPlace : Location}
    {number otherNumber : Nat} (same : sameFile files viewer path other = true)
    (denotes : files.Denotes viewer path place number) (otherwise : files.Denotes viewer other otherPlace otherNumber) :
    number = otherNumber := by
  obtain rfl := place_of_sameFile plain same denotes otherwise
  cases (plain.denotes_iff.mp denotes).2.symm.trans (plain.denotes_iff.mp otherwise).2
  rfl

/-- Paths that lead to the same place are taken for the same. -/
theorem sameFile_of_denotes {path other : String} {place : Location} {number : Nat}
    (denotes : files.Denotes viewer path place number) (otherwise : files.Denotes viewer other place number)
    (checked : FileSystem.checkPath path = .ok ()) (otherChecked : FileSystem.checkPath other = .ok ()) :
    sameFile files viewer path other = true := by
  simp [sameFile, denotes.canonical checked, otherwise.canonical otherChecked]

end Targets

private theorem OutputTarget.mode_eq (target : OutputTarget) : target.mode ≠ .update ∧
    (target.mode = .append ↔ target.append = true) := by
  unfold mode
  cases target.append with
  | true => exact ⟨WriteMode.noConfusion, fun _ => rfl, fun _ => rfl⟩
  | false => exact ⟨WriteMode.noConfusion, fun same => (by cases same), fun same => by cases same⟩

namespace Line

section

variable {line : Line} {files after : FileSystem} {viewer : Viewer} {home : Option String} {directory : String}
  {redirects : Redirects} {output error : OutputTarget}

/-- How a line with an output and a file for the errors comes to its open files. -/
theorem opened_of_both (outputLine : line.output = some output) (errorLine : line.error = some error)
    (validated : line.openTargets files viewer home directory = (after, .ok redirects)) :
    ∃ left file, files.openWrite viewer output.mode (Target.of home directory output.path).path = .ok (left, file) ∧
      redirects.output = some file ∧
      (Targets.sameFile left viewer (Target.of home directory output.path).path (Target.of home directory error.path).path =
          true ∧ after = left ∧ redirects.error = some .shared ∨
        Targets.sameFile left viewer (Target.of home directory output.path).path
            (Target.of home directory error.path).path = false ∧
          ∃ other, left.openWrite viewer error.mode (Target.of home directory error.path).path = .ok (after, other) ∧
            redirects.error = some (.own other)) := by
  unfold openTargets at validated
  dsimp only at validated
  split at validated
  · cases validated
  · have opening := Targets.opening files viewer (line.targets home directory)
    rw [validated] at opening
    cases opening with
    | @opened left _ _ _ opened openedError =>
        simp only [targets, outputLine, Option.map_some] at opened
        obtain ⟨file, taken, accepted⟩ := Targets.openWrite_of_openOutput_some opened
        refine ⟨left, file, accepted, taken, ?_⟩
        unfold Targets.openError at openedError
        simp only [Targets.sharesOutput, targets, outputLine, errorLine, Option.map_some] at openedError
        split at openedError
        · next shares =>
            obtain ⟨rfl, shared⟩ := Prod.mk.inj (Except.ok.inj openedError)
            exact .inl ⟨shares, rfl, shared.symm⟩
        · next apart =>
            split at openedError
            · next own =>
                obtain ⟨other, rfl, acceptedError⟩ := Targets.openWrite_of_openOutput_some own
                obtain ⟨rfl, taken⟩ := Prod.mk.inj (Except.ok.inj openedError)
                exact .inr ⟨eq_false_of_ne_true apart, other, acceptedError, taken.symm⟩
            · cases openedError

end

/-- An output that was opened appends to its file, which holds what it held before or
nothing. -/
theorem appends_of_opensFile {files left : FileSystem} {viewer : Viewer} {target : OutputTarget} {path : String}
    {file : OpenFile} {place : Location} {number : Nat}
    (opens : files.OpensFile viewer target.mode path left file place number) :
    file.Appends left number ∧
      left.content (.file number) = if target.append then files.content (.file number) else [] := by
  obtain ⟨output, append⟩ := target.mode_eq
  obtain ⟨appends, content⟩ := opens.opened.appends output opens.node (List.getElem?_eq_getElem opens.stored)
  rw [opens.node] at content
  refine ⟨appends, content.trans ?_⟩
  simp only [append]

/-- For every tree of files, directories and links, and however the paths are spelled: the
output of a line goes to the file that its path denotes once all targets are open. If the
errors go to the same place, or their path is the same but for its spelling, the file takes
all that is written to either end, in order, after what the output keeps of it; the operator
of the errors does not count. If they go to another file, each takes its own. Opening leads no
path away from the file that it denoted before, so what is kept is what was found under the
path; a file that is not older was missing. Of a file with two names, one for the output and one
for the errors, nothing is said. -/
theorem content_of_writeAll {line : Line} {files after : FileSystem} {viewer : Viewer} {home : Option String}
    {directory : String} {redirects : Redirects} {output error : OutputTarget} (plain : files.Plain)
    (outputLine : line.output = some output) (errorLine : line.error = some error)
    (validated : line.openTargets files viewer home directory = (after, .ok redirects)) :
    (∀ path place number, files.Denotes viewer path place number ↔
      after.Denotes viewer path place number ∧ number < files.stored.length) ∧
    ∃ place number, after.Denotes viewer (Target.of home directory output.path).path place number ∧
      (after.Denotes viewer (Target.of home directory error.path).path place number ∨
          Path.same (Target.of home directory output.path).path (Target.of home directory error.path).path = true →
        ∀ writes, (redirects.writeAll after writes).1.content (.file number) =
          (if output.append then files.content (.file number) else []) ++ writes.flatMap Prod.snd) ∧
      ∀ otherPlace other, after.Denotes viewer (Target.of home directory error.path).path otherPlace other →
        other ≠ number → ∀ writes,
          (redirects.writeAll after writes).1.content (.file number) =
              (if output.append then files.content (.file number) else []) ++ Redirects.bytesFor .output writes ∧
            (redirects.writeAll after writes).1.content (.file other) =
              (if error.append then files.content (.file other) else []) ++ Redirects.bytesFor .error writes := by
  obtain ⟨left, file, opened, taken, shared | own⟩ := opened_of_both outputLine errorLine validated
  · obtain ⟨same, rfl, shared⟩ := shared
    obtain ⟨place, number, opens⟩ := plain.opensFile opened
    obtain ⟨appends, content⟩ := appends_of_opensFile opens
    refine ⟨fun _ _ _ => opens.grows.denotes_iff plain opens.plain, place, number, opens.denotes, ?_, ?_⟩
    · intro _ writes
      rw [Redirects.content_writeAll_shared taken shared appends, content]
    · intro otherPlace other denotes different
      exact absurd (Targets.number_of_sameFile opens.plain same opens.denotes denotes).symm different
  · obtain ⟨apart, otherFile, openedError, takenError⟩ := own
    obtain ⟨place, number, opens⟩ := plain.opensFile opened
    obtain ⟨otherPlace, other, opensError⟩ := opens.plain.opensFile openedError
    have denotes := opens.denotes.grows opens.plain opensError.plain opensError.grows
    obtain ⟨appends, content⟩ := appends_of_opensFile opens
    obtain ⟨appendsError, contentError⟩ := appends_of_opensFile opensError
    refine ⟨fun _ _ _ => (opens.grows.trans opensError.grows).denotes_iff plain opensError.plain,
      place, number, denotes, ?_, ?_⟩
    · -- The errors would have been sent to the open file of the output.
      intro same
      obtain ⟨rfl, rfl⟩ : place = otherPlace ∧ number = other := by
        rcases same with found | spelled
        · exact found.unique opensError.denotes
        · exact denotes.of_same opensError.plain spelled opensError.denotes
      rcases opensError.origin with before | ⟨beyond, _⟩
      · have found := Targets.sameFile_of_denotes opens.denotes before opens.checked opensError.checked
        cases apart.symm.trans found
      · exact absurd opens.stored (Nat.not_lt.mpr beyond)
    · intro otherPlace' other' denotesError different
      obtain ⟨rfl, rfl⟩ := denotesError.unique opensError.denotes
      have foreign : file.node ≠ .file other' := by
        rw [opens.node]
        exact fun nodes => different (Node.file.inj nodes).symm
      have foreignError : otherFile.node ≠ .file number := by
        rw [opensError.node]
        exact fun nodes => different (Node.file.inj nodes)
      have kept : file.Appends after number :=
        ⟨appends.node, appends.writable, opensError.opened.stored_of_ne foreignError ▸ appends.place⟩
      intro writes
      obtain ⟨outputs, errors⟩ := Redirects.content_writeAll_own taken takenError kept appendsError different.symm writes
      rw [outputs, errors, opensError.opened.content_of_ne foreignError, content, contentError,
        opens.opened.content_of_ne foreign]
      exact ⟨rfl, rfl⟩

/-- The errors go to what the output creates behind a link that leads to nothing. -/
theorem content_of_writeAll_dangling :
    let files : FileSystem := { entries := [([], .directory ⟨0o755, 0⟩), (["l"], .link "t")] }
    let line : Line := { stages := [⟨["x"]⟩], output := some ⟨"l", false⟩, error := some ⟨"~/./t", true⟩ }
    ∃ after redirects, line.openTargets files ⟨0, [], 0⟩ (some "/") "/" = (after, .ok redirects) ∧ files.stored = [] ∧
      after.Denotes ⟨0, [], 0⟩ "/l" ["t"] 0 ∧
      ∀ writes, (redirects.writeAll after writes).1.content (.file 0) = writes.flatMap Prod.snd := by
  intro files line
  have plain : files.Plain := .of_entries (by decide) (by decide)
  have validated : line.openTargets files ⟨0, [], 0⟩ (some "/") "/" =
      (files.create ["t"] ⟨⟨0o666, 0⟩, []⟩, .ok { output := some (.ofMode .truncate (.file 0)), error := some .shared }) := by
    cbv
  refine ⟨_, _, validated, rfl, by cbv, ?_⟩
  intro writes
  obtain ⟨_, place, number, denotes, together, _⟩ := content_of_writeAll plain rfl rfl validated
  obtain ⟨rfl, rfl⟩ := denotes.unique (by cbv : FileSystem.Denotes _ _ _ ["t"] 0)
  exact together (.inl (by cbv)) writes

end Line

end PipeShell
