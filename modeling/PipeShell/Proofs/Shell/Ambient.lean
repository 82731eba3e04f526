import PipeShell.Proofs.Shell.Visits
import PipeShell.Redirects

/-! # The directory of the process

A shell is a process and has a working directory as such, but its session keeps one of its
own. Absolute paths lead to the same place from every directory, and what a line or a change
of directory names becomes absolute when it is joined to the directory of the session. Only
the home directory is not joined to it, so a change of directory without a target looks a
relative one up from the directory of the process, and `~` itself if there is no home
directory. -/

set_option autoImplicit false

namespace PipeShell

namespace System

/-! ## Absolute paths -/

namespace Path

private theorem isAbsolute_append {base : String} (absolute : isAbsolute base = true) (rest : String) :
    isAbsolute (base ++ rest) = true := by
  unfold isAbsolute at absolute ⊢
  rw [String.toList_append, List.head?_append]
  rw [eq_of_beq absolute]
  rfl

theorem isAbsolute_join {base : String} (absolute : isAbsolute base = true) (path : String) :
    isAbsolute (join base path) = true := by
  unfold join
  split
  · assumption
  · split
    · exact isAbsolute_append absolute path
    · exact isAbsolute_append (isAbsolute_append absolute "/") path

private theorem expandTilde_home (home : String) : expandTilde (some home) "~" = home := by
  simp [expandTilde]

end Path

namespace FileSystem

variable {path : String} (absolute : Path.isAbsolute path = true) (files : FileSystem) (viewer : Viewer) (there : Location)

include absolute

theorem follow_ambient (last : LastName) (names : List String) :
    files.follow { viewer with directory := there } last path names = files.follow viewer last path names := by
  rw [follow, follow, Path.origin, Path.origin, if_pos absolute, if_pos absolute]

theorem stat_ambient : files.stat { viewer with directory := there } path = files.stat viewer path := by
  rw [stat, stat, resolve, resolve, follow_ambient absolute]

theorem canonical_ambient : files.canonical { viewer with directory := there } path = files.canonical viewer path := by
  rw [canonical, canonical, follow_ambient absolute]

theorem isDirectory_ambient : files.isDirectory { viewer with directory := there } path = files.isDirectory viewer path := by
  rw [isDirectory, isDirectory, stat_ambient absolute]

theorem hasPath_ambient : files.hasPath { viewer with directory := there } path = files.hasPath viewer path := by
  rw [hasPath, hasPath, stat_ambient absolute]

theorem mayAccess_ambient (permission : Permission) :
    files.mayAccess { viewer with directory := there } permission path = files.mayAccess viewer permission path := by
  rw [mayAccess, mayAccess, stat_ambient absolute]

private theorem openRead_ambient :
    files.openRead { viewer with directory := there } path = files.openRead viewer path := by
  rw [openRead, openRead, stat_ambient absolute]

private theorem openWrite_ambient (mode : WriteMode) :
    files.openWrite { viewer with directory := there } mode path = files.openWrite viewer mode path := by
  rw [openWrite, openWrite, follow_ambient absolute]
  rfl

end FileSystem

end System

open PipeShell.System

/-! ## The targets of a line -/

namespace Targets

/-- All paths are absolute. -/
structure Rooted (targets : Targets) : Prop where
  input : ∀ target ∈ targets.input, Path.isAbsolute target.path = true
  output : ∀ target ∈ targets.output, Path.isAbsolute target.1.path = true
  error : ∀ target ∈ targets.error, Path.isAbsolute target.1.path = true

private theorem rooted_targets {directory : String} (absolute : Path.isAbsolute directory = true) (line : Line)
    (home : Option String) : (line.targets home directory).Rooted := by
  have joined (path : String) : Path.isAbsolute (Target.of home directory path).path = true :=
    Path.isAbsolute_join absolute _
  constructor
  · intro target member
    obtain ⟨path, _, rfl⟩ := Option.map_eq_some_iff.mp member
    exact joined path
  · intro target member
    obtain ⟨output, _, rfl⟩ := Option.map_eq_some_iff.mp member
    exact joined output.path
  · intro target member
    obtain ⟨error, _, rfl⟩ := Option.map_eq_some_iff.mp member
    exact joined error.path

section

variable (files : FileSystem) (viewer : Viewer) (there : Location)

private theorem checkInput_ambient {target : Target} (absolute : Path.isAbsolute target.path = true) :
    checkInput files { viewer with directory := there } target = checkInput files viewer target := by
  rw [checkInput, checkInput, FileSystem.hasPath_ambient absolute, FileSystem.mayAccess_ambient absolute]

private theorem checkOutput_ambient {target : Target × WriteMode} (absolute : Path.isAbsolute target.1.path = true)
    (complain : String → ValidationError) :
    checkOutput files { viewer with directory := there } complain target = checkOutput files viewer complain target := by
  rw [checkOutput, checkOutput, isWritable, isWritable, FileSystem.isDirectory_ambient absolute,
    FileSystem.hasPath_ambient absolute, FileSystem.mayAccess_ambient absolute]

private theorem openInput_ambient {target : Option Target}
    (absolute : ∀ named ∈ target, Path.isAbsolute named.path = true) :
    openInput files { viewer with directory := there } target = openInput files viewer target := by
  cases target with
  | none => rfl
  | some named => rw [openInput, openInput, FileSystem.openRead_ambient (absolute named rfl)]

theorem openOutput_ambient {target : Option (Target × WriteMode)}
    (absolute : ∀ named ∈ target, Path.isAbsolute named.1.path = true) :
    openOutput files { viewer with directory := there } target = openOutput files viewer target := by
  cases target with
  | none => rfl
  | some named => rw [openOutput, openOutput, FileSystem.openWrite_ambient (absolute named rfl)]

variable {targets : Targets} (rooted : targets.Rooted)

include rooted

private theorem unfit?_ambient :
    unfit? files { viewer with directory := there } targets = unfit? files viewer targets := by
  have input := Option.bind_congr fun target member => checkInput_ambient files viewer there (rooted.input target member)
  have output := Option.bind_congr fun target member =>
    checkOutput_ambient files viewer there (rooted.output target member) .outputFileUnwritable
  have error := Option.bind_congr fun target member =>
    checkOutput_ambient files viewer there (rooted.error target member) .errorFileUnwritable
  rw [unfit?, unfit?, input, output, error]

private theorem openError_ambient :
    openError files { viewer with directory := there } targets = openError files viewer targets := by
  have shares : sharesOutput files { viewer with directory := there } targets = sharesOutput files viewer targets := by
    unfold sharesOutput
    split
    · next output _ error _ outputHere errorHere =>
        have outputAbsolute := rooted.output _ outputHere
        have errorAbsolute := rooted.error _ errorHere
        rw [sameFile, sameFile, FileSystem.canonical_ambient outputAbsolute, FileSystem.canonical_ambient errorAbsolute]
    · rfl
  rw [openError, openError, shares, openOutput_ambient files viewer there rooted.error]

private theorem openAll_ambient :
    openAll files { viewer with directory := there } targets = openAll files viewer targets := by
  simp only [openAll, openInput_ambient files viewer there rooted.input,
    openOutput_ambient _ viewer there rooted.output, openError_ambient _ viewer there rooted]

end

end Targets

/-- The same files are opened from every directory of the process. -/
theorem Line.openTargets_ambient {directory : String} (absolute : Path.isAbsolute directory = true) (line : Line)
    (files : FileSystem) (viewer : Viewer) (there : Location) (home : Option String) :
    line.openTargets files { viewer with directory := there } home directory =
      line.openTargets files viewer home directory := by
  have rooted := Targets.rooted_targets absolute line home
  rw [openTargets, openTargets, Targets.unfit?_ambient files viewer there rooted,
    Targets.openAll_ambient files viewer there rooted]

/-! ## Changes of directory -/

private theorem resolveDirectory_ambient {home : Option String} {base : String} {target : Option String}
    (absolute : Path.isAbsolute (targetPath home base target) = true) (files : FileSystem) (viewer : Viewer)
    (there : Location) :
    resolveDirectory files { viewer with directory := there } home base target =
      resolveDirectory files viewer home base target := by
  have tests (location : Location) : files.isDirectory { viewer with directory := there } location.path =
      files.isDirectory viewer location.path := FileSystem.isDirectory_ambient location.isAbsolute_path ..
  simp only [resolveDirectory_eq, FileSystem.canonical_ambient absolute, tests]

private theorem isAbsolute_targetPath {base : String} (absolute : Path.isAbsolute base = true) (home : Option String)
    (target : String) : Path.isAbsolute (targetPath home base (some target)) = true :=
  Path.isAbsolute_join absolute _

/-- What a session names is looked up from its own directory, wherever the process is. A change
of directory without a target is the only exception, and only if the home directory is
relative or there is none. -/
theorem answers_ambient {directory : String} (absolute : Path.isAbsolute directory = true) (files : FileSystem)
    (viewer : Viewer) (there : Location) (home : Option String) :
    (∀ target, resolveDirectory files { viewer with directory := there } home directory (some target) =
        resolveDirectory files viewer home directory (some target)) ∧
      (∀ line : Line, line.openTargets files { viewer with directory := there } home directory =
        line.openTargets files viewer home directory) ∧
      (∀ path, home = some path → Path.isAbsolute path = true →
        resolveDirectory files { viewer with directory := there } home directory none =
            resolveDirectory files viewer home directory none ∧
          resolveDirectory files viewer home directory none = resolveDirectory files viewer home directory (some "~")) := by
  refine ⟨fun target => ?_, fun line => ?_, ?_⟩
  · exact resolveDirectory_ambient (isAbsolute_targetPath absolute home target) files viewer there
  · exact line.openTargets_ambient absolute files viewer there home
  · rintro path rfl rooted
    have bare : targetPath (some path) directory none = path := Path.expandTilde_home path
    constructor
    · refine resolveDirectory_ambient ?_ files viewer there
      rw [bare]
      exact rooted
    · have tilde : targetPath (some path) directory (some "~") = path := by
        rw [targetPath, Path.expandTilde_home, Path.join, if_pos rooted]
      rw [resolveDirectory_eq, resolveDirectory_eq, tilde, bare]

/-- From a directory that is gone, home as `HOME` says. -/
theorem answers_ambient_home :
    let files : FileSystem := { entries := [([], .directory ⟨0o755, 0⟩), (["h"], .directory ⟨0o755, 0⟩)] }
    let home : Option String := Environment.home ⟨[("HOME", "/h")]⟩ none
    Path.isAbsolute "/s" = true ∧ home = some "/h" ∧ Path.isAbsolute "/h" = true ∧
      resolveDirectory files ⟨0, ["h"], 0o022⟩ home "/s" none = .ok "/h" ∧
      resolveDirectory files ⟨0, [], 0o022⟩ home "/s" (some "~") = .ok "/h" := by
  intro files home
  have absolute : Path.isAbsolute "/s" = true := by decide
  have rooted : Path.isAbsolute "/h" = true := by decide
  have here : resolveDirectory files ⟨0, [], 0o022⟩ home "/s" none = .ok "/h" := by cbv
  obtain ⟨elsewhere, tilde⟩ := (answers_ambient absolute files ⟨0, [], 0o022⟩ ["h"] home).2.2 "/h" rfl rooted
  exact ⟨absolute, rfl, rooted, elsewhere.trans here, tilde.symm.trans here⟩

/-- A relative home directory is found from the directory of the process, or from the one of the
session if it is asked for by `~`. -/
theorem not_answers_ambient :
    (¬∀ (files : FileSystem) (viewer : Viewer) (there : Location) (environment : Environment) (account : Option String)
        (directory : String) (target : Option String), Path.isAbsolute directory = true →
        resolveDirectory files { viewer with directory := there } (environment.home account) directory target =
          resolveDirectory files viewer (environment.home account) directory target) ∧
      ¬∀ (files : FileSystem) (viewer : Viewer) (environment : Environment) (account : Option String)
        (directory : String), Path.isAbsolute directory = true →
        resolveDirectory files viewer (environment.home account) directory none =
          resolveDirectory files viewer (environment.home account) directory (some "~") := by
  let files : FileSystem :=
    { entries := [([], .directory ⟨0o755, 0⟩), (["h"], .directory ⟨0o755, 0⟩), (["s"], .directory ⟨0o755, 0⟩),
        (["s", "h"], .directory ⟨0o755, 0⟩)] }
  let environment : Environment := ⟨[("HOME", "h")]⟩
  let home : Option String := environment.home none
  have absolute : Path.isAbsolute "/s" = true := by decide
  have above : resolveDirectory files ⟨0, [], 0o022⟩ home "/s" none = .ok "/h" := by cbv
  have below : resolveDirectory files ⟨0, ["s"], 0o022⟩ home "/s" none = .ok "/s/h" := by cbv
  have tilde : resolveDirectory files ⟨0, [], 0o022⟩ home "/s" (some "~") = .ok "/s/h" := by cbv
  constructor
  · intro claim
    have same := claim files ⟨0, [], 0o022⟩ ["s"] environment none "/s" none absolute
    exact absurd (Except.ok.inj (below.symm.trans (same.trans above))) (by decide)
  · intro claim
    have same := claim files ⟨0, [], 0o022⟩ environment none "/s" absolute
    exact absurd (Except.ok.inj (above.symm.trans (same.trans tilde))) (by decide)

end PipeShell
