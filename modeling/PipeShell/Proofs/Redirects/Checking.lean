import PipeShell.Proofs.Pipeline.Execution

/-! # Which check of a line fails first

The targets of a line go through four checks in a fixed order. The first one that fails
decides on the error, and then nothing is touched and nobody is started. -/

set_option autoImplicit false

namespace PipeShell

open PipeShell.System

/-! ## The checks -/

/-- What a check asks of the place that a path leads to. -/
inductive Demand where
  | present
  | readable
  /-- Not a directory and writable, if there is anything. -/
  | writable

/-- The demand is met by what a look at the path shows. -/
def Demand.Met (files : FileSystem) (viewer : Viewer) (path : String) : Demand → Prop
  | .present => ∃ location node, files.stat viewer path = .ok (location, node)
  | .readable => ∃ location node, files.stat viewer path = .ok (location, node) ∧
      (files.attributesOf node).allows viewer.user .read = true
  | .writable => ∀ location node, files.stat viewer path = .ok (location, node) →
      node.isDirectory = false ∧ (files.attributesOf node).allows viewer.user .write = true

/-- A check of a target, if the line has it, with the error for its path. -/
structure Check where
  target : Option String
  demand : Demand
  complain : String → ValidationError

def Line.checks (line : Line) : List Check :=
  [⟨line.input, .present, .inputFileMissing⟩,
    ⟨line.input, .readable, .inputFileUnreadable⟩,
    ⟨line.output.map OutputTarget.path, .writable, .outputFileUnwritable⟩,
    ⟨line.error.map OutputTarget.path, .writable, .errorFileUnwritable⟩]

section

variable (files : FileSystem) (viewer : Viewer) (home : Option String) (directory : String)

/-- The check fails with the error of the path as the line gives it. -/
inductive Check.Fails : Check → ValidationError → Prop where
  | unmet {path : String} {demand : Demand} {complain : String → ValidationError} :
      ¬demand.Met files viewer (Path.join directory (Path.expandTilde home path)) →
      Fails ⟨some path, demand, complain⟩ (complain path)

/-- The error of the first check that fails. -/
inductive FirstFailure : List Check → ValidationError → Prop where
  | here {check : Check} {rest : List Check} {error : ValidationError} :
      check.Fails files viewer home directory error → FirstFailure (check :: rest) error
  | later {check : Check} {rest : List Check} {error : ValidationError} :
      (∀ other, ¬check.Fails files viewer home directory other) → FirstFailure rest error →
      FirstFailure (check :: rest) error

end

/-! ## What they find -/

def Demand.test (files : FileSystem) (viewer : Viewer) : Demand → String → Bool
  | .present => files.hasPath viewer
  | .readable => files.mayAccess viewer .read
  | .writable => Targets.isWritable files viewer

def Check.failure? (files : FileSystem) (viewer : Viewer) (home : Option String) (directory : String) (check : Check) :
    Option ValidationError :=
  check.target.bind fun path =>
    if check.demand.test files viewer (Target.of home directory path).path then none else some (check.complain path)

section

variable {files : FileSystem} {viewer : Viewer} {home : Option String} {directory : String}

private theorem Demand.met_iff_test (demand : Demand) (path : String) :
    demand.Met files viewer path ↔ demand.test files viewer path = true := by
  cases demand with
  | present =>
      simp only [Met, test, FileSystem.hasPath]
      cases files.stat viewer path with
      | ok found => exact ⟨fun _ => rfl, fun _ => ⟨found.1, found.2, rfl⟩⟩
      | error => simp [Except.toBool]
  | readable =>
      simp only [Met, test, FileSystem.mayAccess]
      cases files.stat viewer path with
      | ok found =>
          obtain ⟨location, node⟩ := found
          constructor
          · rintro ⟨_, _, same, allows⟩
            cases same
            exact allows
          · exact fun allows => ⟨location, node, rfl, allows⟩
      | error => simp
  | writable =>
      simp only [Met, test, Targets.isWritable, FileSystem.isDirectory, FileSystem.hasPath, FileSystem.mayAccess]
      cases files.stat viewer path with
      | ok found =>
          obtain ⟨location, node⟩ := found
          simp [Except.toBool]
      | error => simp [Except.toBool]

theorem Check.fails_iff (check : Check) (error : ValidationError) :
    check.Fails files viewer home directory error ↔ check.failure? files viewer home directory = some error := by
  unfold failure?
  constructor
  · rintro ⟨unmet⟩
    rw [Demand.met_iff_test] at unmet
    exact if_neg unmet
  · intro found
    obtain ⟨target, demand, complain⟩ := check
    obtain ⟨path, rfl, found⟩ := Option.bind_eq_some_iff.mp found
    split at found
    · cases found
    · next unmet =>
        cases found
        exact .unmet fun met => unmet ((demand.met_iff_test _).mp met)

/-- The first failure is found by going through the checks one by one. -/
theorem firstFailure_iff (checks : List Check) (error : ValidationError) :
    FirstFailure files viewer home directory checks error ↔
      checks.findSome? (Check.failure? files viewer home directory) = some error := by
  induction checks with
  | nil =>
      constructor
      · intro failure
        cases failure
      · intro found
        cases found
  | cons check rest ih =>
      rw [List.findSome?_cons]
      cases first : check.failure? files viewer home directory with
      | some other =>
          constructor
          · intro failure
            cases failure with
            | here fails => exact first.symm.trans ((check.fails_iff error).mp fails)
            | later passes _ => exact absurd ((check.fails_iff other).mpr first) (passes other)
          · intro same
            exact .here ((check.fails_iff error).mpr (first.trans same))
      | none =>
          constructor
          · intro failure
            cases failure with
            | here fails => cases first.symm.trans ((check.fails_iff error).mp fails)
            | later _ failure => exact ih.mp failure
          · intro found
            refine .later ?_ (ih.mpr found)
            intro other fails
            cases first.symm.trans ((check.fails_iff other).mp fails)

/-- The target that is found unfit is the one of the first check that fails. -/
theorem error_unfit? (line : Line) : ((line.targets home directory).unfit? files viewer).map Unfit.error =
    line.checks.findSome? (Check.failure? files viewer home directory) := by
  have written (path : String) : (Target.of home directory path).written = path := rfl
  have input : ((line.input.map (Target.of home directory)).bind (Targets.checkInput files viewer)).map Unfit.error =
      (Check.failure? files viewer home directory ⟨line.input, .present, .inputFileMissing⟩).or
        (Check.failure? files viewer home directory ⟨line.input, .readable, .inputFileUnreadable⟩) := by
    cases line.input with
    | none => rfl
    | some path =>
        simp only [Check.failure?, Demand.test, Targets.checkInput, Option.map_some, Option.bind_some]
        by_cases present : files.hasPath viewer (Target.of home directory path).path = true
        · by_cases readable : files.mayAccess viewer .read (Target.of home directory path).path = true
          · simp [present, readable]
          · simp [present, readable, written]
        · simp [present, written]
  have output (target : Option OutputTarget) (complain : String → ValidationError) :
      ((target.map fun target => (Target.of home directory target.path, target.mode)).bind
          (Targets.checkOutput files viewer complain)).map Unfit.error =
        Check.failure? files viewer home directory ⟨target.map OutputTarget.path, .writable, complain⟩ := by
    cases target with
    | none => rfl
    | some target =>
        simp only [Check.failure?, Demand.test, Targets.checkOutput, Option.map_some, Option.bind_some]
        by_cases writable : Targets.isWritable files viewer (Target.of home directory target.path).path = true
        · simp [writable]
        · simp [writable, written]
  have either (first later : Option Unfit) : (first.or later).map Unfit.error =
      (first.map Unfit.error).or (later.map Unfit.error) := by
    cases first <;> rfl
  have chain (check : Check) (rest : List Check) :
      (check :: rest).findSome? (Check.failure? files viewer home directory) =
        (check.failure? files viewer home directory).or
          (rest.findSome? (Check.failure? files viewer home directory)) := by
    rw [List.findSome?_cons]
    cases check.failure? files viewer home directory <;> rfl
  rw [Targets.unfit?, Line.targets, either, either, input, output, output]
  simp only [Line.checks, chain, List.findSome?_nil, Option.or_none, Option.or_assoc]

private theorem exists_firstFailure_iff (checks : List Check) :
    (∃ error, FirstFailure files viewer home directory checks error) ↔
      ∃ check ∈ checks, ∃ error, check.Fails files viewer home directory error := by
  constructor
  · rintro ⟨error, failure⟩
    induction failure with
    | here fails => exact ⟨_, List.mem_cons_self, _, fails⟩
    | later _ _ ih =>
        obtain ⟨check, member, fails⟩ := ih
        exact ⟨check, List.mem_cons_of_mem _ member, fails⟩
  · rintro ⟨check, member, error, fails⟩
    have found : (checks.findSome? (Check.failure? files viewer home directory)).isSome = true :=
      List.findSome?_isSome_iff.mpr ⟨check, member, by rw [(check.fails_iff error).mp fails]; rfl⟩
    obtain ⟨first, found⟩ := Option.isSome_iff_exists.mp found
    exact ⟨first, (firstFailure_iff checks first).mpr found⟩

/-! ## What comes of it -/

/-- What fails once the checks are passed is no check. -/
theorem Targets.ne_validation_of_openAll (targets : Targets) (error : ValidationError) :
    (targets.openAll files viewer).2 ≠ .error (.validation error) := by
  have opened {files : FileSystem} {target : Option (Target × WriteMode)} {error : ValidationError} :
      openOutput files viewer target ≠ .error (.validation error) := by
    intro failed
    unfold openOutput at failed
    split at failed
    · cases failed
    · split at failed
      · cases failed
      · cases failed
  intro failed
  have opening := targets.opening files viewer
  rw [failed] at opening
  generalize (targets.openAll files viewer).1 = left at opening
  cases opening with
  | inputFailed input =>
      unfold openInput at input
      split at input
      · cases input
      · split at input
        · cases input
        · cases input
  | outputFailed _ output => exact opened output
  | errorFailed _ _ failed =>
      unfold openError at failed
      split at failed
      · cases failed
      · split at failed
        · cases failed
        · next own =>
            cases failed
            exact opened own

private theorem Line.openTargets_eq_validation_iff {line : Line} {error : ValidationError} :
    (line.openTargets files viewer home directory).2 = .error (.validation error) ↔
      ((line.targets home directory).unfit? files viewer).map Unfit.error = some error := by
  unfold openTargets
  dsimp only
  split
  · next unfit found => simp [found]
  · next found =>
      simp only [found, Option.map_none, reduceCtorEq, iff_false]
      exact Targets.ne_validation_of_openAll _ error

end

namespace Pipeline

/-- A line fails its checks if one of them fails, and then with the error of the first one
that does. In this case nothing is touched, and nobody is started. -/
theorem execute_of_firstFailure (line : Line) (files : FileSystem) (viewer : Viewer) (home : Option String)
    (directory : String) :
    ((∃ error, (line.openTargets files viewer home directory).2 = .error (.validation error)) ↔
      ∃ check ∈ line.checks, ∃ error, check.Fails files viewer home directory error) ∧
    ∀ error, ((line.openTargets files viewer home directory).2 = .error (.validation error) ↔
        FirstFailure files viewer home directory line.checks error) ∧
      (FirstFailure files viewer home directory line.checks error →
        (line.openTargets files viewer home directory).1 = files ∧
        ∀ (host : Host) (before : State), host.directory = directory → before.files = files →
          (execute host before viewer home line).result = some (.error (.validation error)) ∧
          ∃ log, (execute host before viewer home line).state =
            { before with captured := .empty, complaints := .empty, log }) := by
  have decides (error : ValidationError) : (line.openTargets files viewer home directory).2 = .error (.validation error) ↔
      FirstFailure files viewer home directory line.checks error := by
    rw [Line.openTargets_eq_validation_iff, firstFailure_iff, error_unfit?]
  refine ⟨?_, fun error => ⟨decides error, ?_⟩⟩
  · rw [← exists_firstFailure_iff]
    exact exists_congr decides
  · intro failure
    have failed := Line.openTargets_eq_validation_iff.mp ((decides error).mpr failure)
    obtain ⟨unfit, found, rfl⟩ := Option.map_eq_some_iff.mp failed
    have opened : line.openTargets files viewer home directory = (files, .error (.validation unfit.error)) := by
      simp only [Line.openTargets, found]
    refine ⟨by rw [opened], ?_⟩
    rintro host before rfl rfl
    simp only [execute, opened]
    exact ⟨trivial, _, rfl⟩

/-- The input is missing and the output is a directory: the input is complained about. -/
theorem execute_of_firstFailure_missing :
    let line : Line := { stages := [⟨["cat"]⟩], input := some "no", output := some ⟨"~", false⟩ }
    let files : FileSystem := { entries := [([], .directory ⟨0o755, 0⟩)], stored := [] }
    let execution := execute Host.still (State.idle files .null) ⟨0, [], 0⟩ (some "/") line
    FirstFailure files ⟨0, [], 0⟩ (some "/") "/" line.checks (.inputFileMissing "no") ∧
      Check.Fails files ⟨0, [], 0⟩ (some "/") "/" ⟨some "~", .writable, .outputFileUnwritable⟩ (.outputFileUnwritable "~") ∧
      execution.result = some (.error (.validation (.inputFileMissing "no"))) ∧ execution.state.processes = [] := by
  intro line files execution
  have opened : line.openTargets files ⟨0, [], 0⟩ (some "/") "/" = (files, .error (.validation (.inputFileMissing "no"))) := by
    cbv
  have failure := execute_of_firstFailure line files ⟨0, [], 0⟩ (some "/") "/"
  obtain ⟨decides, untouched⟩ := failure.2 (.inputFileMissing "no")
  have first := decides.mp (congrArg Prod.snd opened)
  obtain ⟨result, _, state⟩ := (untouched first).2 Host.still (State.idle files .null) rfl rfl
  have directory : files.stat ⟨0, [], 0⟩ (Path.join "/" (Path.expandTilde (some "/") "~")) =
      .ok ([], .directory ⟨0o755, 0⟩) := by
    cbv
  refine ⟨first, .unmet ?_, result, ?_⟩
  · intro met
    cases (met _ _ directory).1
  · rw [state]
    rfl

end Pipeline

end PipeShell
