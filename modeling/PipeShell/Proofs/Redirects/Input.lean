import Mathlib
import PipeShell.Proofs.Redirects.Opening
import PipeShell.Proofs.System.Opening

/-! # Reading the input of a line

An input passes its check if it is there and may be read, whatever it is. So a line can be given
a directory to read: its other targets are opened, and then nothing can be read. Everything else
can be read to its end, if it has one. -/

set_option autoImplicit false

namespace PipeShell

open PipeShell.System

namespace System.FileSystem

theorem openRead_eq_ok_iff {files : FileSystem} {viewer : Viewer} {path : String} {file : OpenFile} :
    files.openRead viewer path = .ok file ↔
      ∃ location node, files.stat viewer path = .ok (location, node) ∧
        (files.attributesOf node).allows viewer.user .read = true ∧ file = { node, writable := false } := by
  unfold openRead
  cases found : files.stat viewer path with
  | error failure =>
      constructor
      · intro opened
        cases opened
      · rintro ⟨_, _, same, _⟩
        cases same
  | ok place =>
      obtain ⟨location, node⟩ := place
      simp only [bind, Except.bind]
      constructor
      · intro opened
        split at opened
        · next allowed =>
            cases opened
            exact ⟨location, node, rfl, allowed, rfl⟩
        · cases opened
      · rintro ⟨_, _, same, allowed, rfl⟩
        cases same
        rw [if_pos allowed]

/-- The device gives bytes without end. -/
def IsEndless (node : Node) : Prop := node = .device .zero ∨ node = .device .full

/-- Reads one block after the other, each of at most so many bytes. -/
def readBlocks (files : FileSystem) : OpenFile → List Nat → Except Errno (Bytes × OpenFile)
  | file, [] => .ok ([], file)
  | file, limit :: limits =>
    match files.read file limit with
    | .error e => .error e
    | .ok (data, later) =>
      match files.readBlocks later limits with
      | .error e => .error e
      | .ok (rest, last) => .ok (data ++ rest, last)

section

variable {files : FileSystem} {file : OpenFile}

theorem read_directory (readable : file.readable = true) (directory : file.node.isDirectory = true) (limit : Nat) :
    files.read file limit = .error .isDirectory := by
  obtain ⟨node, offset, append, mayRead, mayWrite⟩ := file
  obtain rfl : mayRead = true := readable
  cases node with
  | directory => rfl
  | file | link | device | program | pipe => cases directory

private theorem read_endless (readable : file.readable = true) (endless : IsEndless file.node) (limit : Nat) :
    files.read file limit = .ok (List.replicate limit 0, file) := by
  rcases endless with node | node
  · simp [read, readable, node]
  · simp [read, readable, node]

/-- What holds no bytes is read like an empty file. -/
theorem read_eq (readable : file.readable = true) (other : file.node.isDirectory = false)
    (ends : ¬IsEndless file.node) (limit : Nat) : files.read file limit = .ok ((files.remaining file).take limit,
      { file with offset := file.offset + ((files.remaining file).take limit).length }) := by
  obtain ⟨node, offset, append, mayRead, mayWrite⟩ := file
  obtain rfl : mayRead = true := readable
  cases node with
  | directory => cases other
  | file number => simp [read]
  | device device =>
      cases device with
      | null => simp [read, remaining_eq, content, fileOf?]
      | zero => exact absurd (.inl rfl) ends
      | full => exact absurd (.inr rfl) ends
  | link | program | pipe => simp [read, remaining_eq, content, fileOf?]

private theorem exists_read (files : FileSystem) (readable : file.readable = true)
    (other : file.node.isDirectory = false) (limit : Nat) :
    ∃ data later, files.read file limit = .ok (data, later) ∧ later.readable = true ∧ later.node = file.node ∧
      (¬IsEndless file.node → data = (files.remaining file).take limit ∧
        files.remaining later = (files.remaining file).drop limit) := by
  by_cases endless : IsEndless file.node
  · exact ⟨_, _, read_endless readable endless limit, readable, rfl, fun ends => absurd endless ends⟩
  · exact ⟨_, _, read_eq readable other endless limit, readable, rfl, fun _ =>
      ⟨rfl, OpenFile.remaining_advanced files file limit⟩⟩

theorem exists_readBlocks (files : FileSystem) (readable : file.readable = true)
    (other : file.node.isDirectory = false) (limits : List Nat) :
    ∃ data last, files.readBlocks file limits = .ok (data, last) ∧
      (¬IsEndless file.node → data = (files.remaining file).take limits.sum) := by
  induction limits generalizing file with
  | nil => exact ⟨[], file, rfl, fun _ => rfl⟩
  | cons limit limits ih =>
      obtain ⟨data, later, reads, readableLater, same, block⟩ := exists_read files readable other limit
      rw [← same] at other
      obtain ⟨rest, last, readsRest, blocks⟩ := ih readableLater other
      refine ⟨data ++ rest, last, by simp only [readBlocks, reads, readsRest], ?_⟩
      intro ends
      obtain ⟨first, remains⟩ := block ends
      rw [first, blocks (same ▸ ends), remains, List.sum_cons, List.take_add]

/-- Only the reading of a directory fails. -/
theorem readBlocks_iff (readable : file.readable = true) :
    (∀ limits, ∃ data last, files.readBlocks file limits = .ok (data, last)) ↔ file.node.isDirectory = false := by
  constructor
  · intro reads
    refine eq_false_of_ne_true fun directory => ?_
    obtain ⟨data, last, read⟩ := reads [1]
    rw [readBlocks, read_directory readable directory] at read
    cases read
  · intro other limits
    obtain ⟨data, last, reads, _⟩ := exists_readBlocks files readable other limits
    exact ⟨data, last, reads⟩

end

end System.FileSystem

namespace Targets

variable {files : FileSystem} {viewer : Viewer} {location : Location} {node : Node}

private theorem checkInput_eq_none {target : Target} (found : files.stat viewer target.path = .ok (location, node))
    (allowed : (files.attributesOf node).allows viewer.user .read = true) : checkInput files viewer target = none := by
  simp [checkInput, FileSystem.hasPath, FileSystem.mayAccess, found, allowed, Except.toBool]

/-- An input that is there and may be read changes nothing for the other targets. -/
theorem openAll_input {target : Target} (found : files.stat viewer target.path = .ok (location, node))
    (allowed : (files.attributesOf node).allows viewer.user .read = true) (output error : Option (Target × WriteMode)) :
    openAll files viewer ⟨some target, output, error⟩ =
      ((openAll files viewer ⟨none, output, error⟩).1, (openAll files viewer ⟨none, output, error⟩).2.map
        fun redirects => { redirects with input := some { node, writable := false } }) := by
  have opened : openInput files viewer (some target) = .ok (some { node, writable := false }) := by
    rw [openInput, FileSystem.openRead_eq_ok_iff.mpr ⟨location, node, found, allowed, rfl⟩]
  have absent : openInput files viewer none = .ok none := rfl
  have later (left : FileSystem) : openError left viewer ⟨some target, output, error⟩ =
      openError left viewer ⟨none, output, error⟩ := rfl
  simp only [openAll, opened, absent, later]
  split
  · rfl
  · split
    · rfl
    · rfl

end Targets

namespace Line

variable {line : Line} {files after : FileSystem} {viewer : Viewer} {home : Option String} {directory path : String}
  {redirects : Redirects}

/-- The open file of the input is what its path leads to before anything is opened. -/
theorem stat_of_openTargets (validated : line.openTargets files viewer home directory = (after, .ok redirects))
    (input : line.input = some path) :
    ∃ location node, redirects.input = some { node, writable := false } ∧
      files.stat viewer (Target.of home directory path).path = .ok (location, node) := by
  unfold openTargets at validated
  dsimp only at validated
  split at validated
  · cases validated
  · have opening := Targets.opening files viewer (line.targets home directory)
    rw [validated] at opening
    cases opening with
    | opened openedInput =>
        simp only [targets, input, Option.map_some, Targets.openInput] at openedInput
        split at openedInput
        · next accepted =>
            obtain ⟨location, node, found, _, rfl⟩ := FileSystem.openRead_eq_ok_iff.mp accepted
            exact ⟨location, node, (Except.ok.inj openedInput).symm, found⟩
        · cases openedInput

private theorem openTargets_input {location : Location} {node : Node} (input : line.input = some path)
    (found : files.stat viewer (Target.of home directory path).path = .ok (location, node))
    (allowed : (files.attributesOf node).allows viewer.user .read = true) :
    let others := { line with input := none }.openTargets files viewer home directory
    line.openTargets files viewer home directory = (others.1, others.2.map fun redirects =>
      { redirects with input := some { node, writable := false } }) := by
  have split : line.targets home directory = ⟨some (Target.of home directory path),
      ({ line with input := none }.targets home directory).output,
      ({ line with input := none }.targets home directory).error⟩ := by
    simp only [targets, input, Option.map_some]
  have unfit : (line.targets home directory).unfit? files viewer =
      ({ line with input := none }.targets home directory).unfit? files viewer := by
    rw [split, Targets.unfit?, Option.bind_some, Targets.checkInput_eq_none found allowed]
    rfl
  simp only [openTargets, unfit]
  cases ({ line with input := none }.targets home directory).unfit? files viewer with
  | some unfit => rfl
  | none =>
      dsimp only
      rw [split, Targets.openAll_input found allowed]
      rfl

/-- For every tree of files, directories, links and devices: once the targets of a line are
open, all that its input holds can be read in any number of blocks, unless the input is a
directory; then no read succeeds. Being a directory does not keep an input from being opened.
If it is there and may be read, the line does what it does without its input, and has it open. -/
theorem reads_of_openTargets (line : Line) (files : FileSystem) (viewer : Viewer) (home : Option String) (directory path : String)
    (input : line.input = some path) :
    (∀ after redirects, line.openTargets files viewer home directory = (after, .ok redirects) →
      ∃ location file, redirects.input = some file ∧
        files.stat viewer (Target.of home directory path).path = .ok (location, file.node) ∧
        ((∀ limits, ∃ data last, after.readBlocks file limits = .ok (data, last)) ↔ file.node.isDirectory = false) ∧
        (file.node.isDirectory = true → ∀ limit, after.read file limit = .error .isDirectory) ∧
        (file.node.isDirectory = false → ¬FileSystem.IsEndless file.node → ∀ limits, ∃ last,
          after.readBlocks file limits = .ok ((after.content file.node).take limits.sum, last))) ∧
      ∀ location node, files.stat viewer (Target.of home directory path).path = .ok (location, node) →
        (files.attributesOf node).allows viewer.user .read = true →
        let others := { line with input := none }.openTargets files viewer home directory
        line.openTargets files viewer home directory = (others.1, others.2.map fun redirects =>
          { redirects with input := some { node, writable := false } }) := by
  refine ⟨?_, fun location node found allowed => openTargets_input input found allowed⟩
  intro after redirects validated
  obtain ⟨location, node, opened, found⟩ := stat_of_openTargets validated input
  refine ⟨location, _, opened, found, FileSystem.readBlocks_iff rfl, FileSystem.read_directory rfl, ?_⟩
  intro other ends limits
  obtain ⟨data, last, reads, blocks⟩ := FileSystem.exists_readBlocks after rfl other limits
  exact ⟨last, blocks ends ▸ reads⟩

/-- The output is emptied for an input that cannot be read. -/
theorem reads_of_openTargets_directory :
    let files : FileSystem :=
      { entries := [([], .directory ⟨0o755, 0⟩), (["d"], .directory ⟨0o755, 0⟩), (["keep"], .file 0)]
        stored := [⟨⟨0o644, 0⟩, [111, 108, 100, 10]⟩] }
    let line : Line := { stages := [⟨["cat"]⟩], input := some "d", output := some ⟨"keep", false⟩ }
    line.input = some "d" ∧
      ∃ after redirects file, line.openTargets files ⟨0, [], 0⟩ (some "/") "/" = (after, .ok redirects) ∧
        redirects.input = some file ∧ after.content (.file 0) = [] ∧
        ∀ limit, after.read file limit = .error .isDirectory := by
  intro files line
  have validated : line.openTargets files ⟨0, [], 0⟩ (some "/") "/" =
      (files.setFile 0 ⟨⟨0o644, 0⟩, []⟩, .ok
        { input := some { node := .directory ⟨0o755, 0⟩, writable := false }
          output := some (.ofMode .truncate (.file 0)) }) := by
    cbv
  obtain ⟨location, file, opened, _, _, fails, _⟩ :=
    (reads_of_openTargets line files ⟨0, [], 0⟩ (some "/") "/" "d" rfl).1 _ _ validated
  cases opened
  exact ⟨rfl, _, _, _, validated, rfl, rfl, fails rfl⟩

/-- So it is not true that what was opened as an input can be read. -/
theorem not_reads_of_openTargets :
    ¬∀ (line : Line) (files after : FileSystem) (viewer : Viewer) (home : Option String) (directory : String) (redirects : Redirects)
        (file : OpenFile),
      line.openTargets files viewer home directory = (after, .ok redirects) → redirects.input = some file →
        ∀ limits, ∃ data last, after.readBlocks file limits = .ok (data, last) := by
  intro reads
  let files : FileSystem := { entries := [([], .directory ⟨0o755, 0⟩), (["d"], .directory ⟨0o755, 0⟩)] }
  let line : Line := { stages := [⟨["cat"]⟩], input := some "d" }
  have validated : line.openTargets files ⟨0, [], 0⟩ (some "/") "/" =
      (files, .ok { input := some { node := .directory ⟨0o755, 0⟩, writable := false } }) := by
    cbv
  obtain ⟨data, last, read⟩ := reads line files files ⟨0, [], 0⟩ (some "/") "/" _ _ validated rfl [1]
  cases read

end Line

end PipeShell
