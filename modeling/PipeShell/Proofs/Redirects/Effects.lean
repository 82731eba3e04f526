import PipeShell.Proofs.Redirects.Input
import PipeShell.Proofs.Redirects.Writing

/-! # What opening the targets does to the files

The targets of a line may be one file behind different links, or missing. Once they are all open,
nothing has changed but the files that the output and the errors lead to. Targets are told apart
by where they lead, so a file with two names is opened under each of them. -/

set_option autoImplicit false

namespace PipeShell

open PipeShell.System

namespace System.FileSystem

variable {files left after : FileSystem} {viewer : Viewer} {mode : WriteMode} {path : String} {file : OpenFile}
  {place : Location} {number : Nat}

/-- Paths that are not taken for the same after the first one was opened lead to different
places, even if the second one is opened only then. -/
theorem OpensFile.ne_of_apart {errorMode : WriteMode} {other : String} {otherFile : OpenFile} {otherPlace : Location}
    {otherNumber : Nat} (opens : OpensFile files viewer mode path left file place number)
    (later : OpensFile left viewer errorMode other after otherFile otherPlace otherNumber)
    (apart : Targets.sameFile left viewer path other = false) : otherPlace ≠ place := by
  rintro rfl
  obtain ⟨_, found⟩ := opens.plain.denotes_iff.mp opens.denotes
  rcases later.origin with before | ⟨_, missing⟩
  · obtain ⟨_, otherFound⟩ := opens.plain.denotes_iff.mp before
    cases found.symm.trans otherFound
    cases apart.symm.trans (Targets.sameFile_of_denotes opens.denotes before opens.checked later.checked)
  · cases missing.symm.trans found

end System.FileSystem

/-! ## The ends of a line -/

namespace Line

/-- The file to which the target that a line has for a sink leads. -/
def Takes (line : Line) (files : FileSystem) (viewer : Viewer) (home : Option String) (directory : String)
    (sink : Pipeline.Sink) (place : Location) (number : Nat) : Prop :=
  ∃ target, line.target sink = some target ∧
    files.Denotes viewer (Target.of home directory target.path).path place number

/-- An end of a line was opened with a file of its own, if the line has that end. -/
inductive OpensEnd (line : Line) (viewer : Viewer) (home : Option String) (directory : String) (sink : Pipeline.Sink)
    (files : FileSystem) : FileSystem → Option (Location × Nat) → Prop where
  | absent : line.target sink = none → OpensEnd line viewer home directory sink files files none
  | opened {target : OutputTarget} {left : FileSystem} {file : OpenFile} {place : Location} {number : Nat} :
      line.target sink = some target →
      files.OpensFile viewer target.mode (Target.of home directory target.path).path left file place number →
      OpensEnd line viewer home directory sink files left (some (place, number))

section

variable {line : Line} {files left after later : FileSystem} {viewer : Viewer} {home : Option String} {directory : String}
  {sink : Pipeline.Sink} {taken : Option (Location × Nat)} {place : Location} {number : Nat}

theorem Takes.get?_eq (plain : files.Plain) (takes : line.Takes files viewer home directory sink place number) :
    files.get? place = some (.file number) := by
  obtain ⟨target, _, denotes⟩ := takes
  exact (plain.denotes_iff.mp denotes).2

/-- An older file is one that the target has led to before. -/
theorem Takes.before (plain : files.Plain) (plainAfter : after.Plain) (grows : FileSystem.Grows files after)
    (takes : line.Takes after viewer home directory sink place number) (old : number < files.stored.length) :
    line.Takes files viewer home directory sink place number := by
  obtain ⟨target, found, denotes⟩ := takes
  exact ⟨target, found, (grows.denotes_iff plain plainAfter).mpr ⟨denotes, old⟩⟩

namespace OpensEnd

theorem plain (opens : line.OpensEnd viewer home directory sink files left taken) (plain : files.Plain) :
    left.Plain := by
  cases opens with
  | absent => exact plain
  | opened _ opens => exact opens.plain

private theorem single (opens : line.OpensEnd viewer home directory sink files left taken) (plain : files.Plain)
    (single : files.SinglyNamed) : left.SinglyNamed := by
  cases opens with
  | absent => exact single
  | opened _ opens => exact single.opensFile plain opens

theorem onlyAt (opens : line.OpensEnd viewer home directory sink files left taken) (plain : files.Plain) :
    files.OnlyAt left viewer fun place number => taken = some (place, number) := by
  cases opens with
  | absent => exact .refl files viewer _
  | opened _ opens =>
      refine (opens.onlyAt plain).mono ?_
      rintro _ _ ⟨rfl, rfl⟩
      rfl

/-- What the target leads to stays what was opened. -/
theorem takes_iff (opens : line.OpensEnd viewer home directory sink files left taken)
    (grows : FileSystem.Grows left later) (plain : later.Plain) :
    line.Takes later viewer home directory sink place number ↔ taken = some (place, number) := by
  cases opens with
  | absent missing => simp [Takes, missing]
  | @opened target _ _ here stored found opens =>
      have denotes := opens.denotes.grows opens.plain plain grows
      constructor
      · rintro ⟨other, same, otherwise⟩
        cases found.symm.trans same
        obtain ⟨rfl, rfl⟩ := denotes.unique otherwise
        rfl
      · intro same
        cases same
        exact ⟨target, found, denotes⟩

theorem content_taken (opens : line.OpensEnd viewer home directory sink files left (some (place, number))) :
    left.content (.file number) = line.kept sink (files.content (.file number)) := by
  cases opens with
  | opened found opens =>
      rw [(appends_of_opensFile opens).2, kept, found]
      rfl

private theorem content_other (opens : line.OpensEnd viewer home directory sink files left taken) (plain : files.Plain)
    (other : ∀ place, taken ≠ some (place, number)) : left.content (.file number) = files.content (.file number) := by
  rw [FileSystem.content, FileSystem.fileOf?, (opens.onlyAt plain).untouched number other]
  rfl

theorem exists_taken (opens : line.OpensEnd viewer home directory sink files left taken) {target : OutputTarget}
    (found : line.target sink = some target) : ∃ place number, taken = some (place, number) := by
  cases opens with
  | absent missing => cases missing.symm.trans found
  | opened => exact ⟨_, _, rfl⟩

end OpensEnd

private theorem exists_opensEnd (sink : Pipeline.Sink) (plain : files.Plain) {taker : Option OpenFile}
    (opened : Targets.openOutput files viewer
      ((line.target sink).map fun target => (Target.of home directory target.path, target.mode)) = .ok (left, taker)) :
    ∃ taken, line.OpensEnd viewer home directory sink files left taken := by
  cases found : line.target sink with
  | none =>
      rw [found] at opened
      cases opened
      exact ⟨none, .absent found⟩
  | some target =>
      rw [found] at opened
      obtain ⟨file, _, accepted⟩ := Targets.openWrite_of_openOutput_some opened
      obtain ⟨place, number, opens⟩ := plain.opensFile accepted
      exact ⟨some (place, number), .opened found opens⟩

private theorem sharesOutput_iff (line : Line) :
    Targets.sharesOutput files viewer (line.targets home directory) = true ↔
      ∃ output error, line.output = some output ∧ line.error = some error ∧
        Targets.sameFile files viewer (Target.of home directory output.path).path
          (Target.of home directory error.path).path = true := by
  unfold Targets.sharesOutput targets
  cases line.output with
  | none => simp
  | some output =>
      cases line.error with
      | none => simp
      | some error => simp

/-- The output is opened first. The errors share its file if both paths are found to be the
same then, and otherwise they are opened like another output. -/
theorem exists_opensEnds (plain : files.Plain) {redirects : Redirects}
    (validated : line.openTargets files viewer home directory = (after, .ok redirects)) :
    ∃ left taken, line.OpensEnd viewer home directory .output files left taken ∧
      ((∃ output error, line.output = some output ∧ line.error = some error ∧ after = left ∧
          Targets.sameFile left viewer (Target.of home directory output.path).path
            (Target.of home directory error.path).path = true) ∨
        (∀ output error, line.output = some output → line.error = some error →
          Targets.sameFile left viewer (Target.of home directory output.path).path
            (Target.of home directory error.path).path = false) ∧
          ∃ takenError, line.OpensEnd viewer home directory .error left after takenError) := by
  unfold openTargets at validated
  dsimp only at validated
  split at validated
  · cases validated
  · have opening := Targets.opening files viewer (line.targets home directory)
    rw [validated] at opening
    cases opening with
    | @opened left _ _ _ output error =>
        obtain ⟨taken, opens⟩ := exists_opensEnd .output plain output
        refine ⟨left, taken, opens, ?_⟩
        unfold Targets.openError at error
        split at error
        · next shares =>
            obtain ⟨rfl, _⟩ := Prod.mk.inj (Except.ok.inj error)
            obtain ⟨outputTarget, errorTarget, outputLine, errorLine, same⟩ := (sharesOutput_iff line).mp shares
            exact .inl ⟨outputTarget, errorTarget, outputLine, errorLine, rfl, same⟩
        · next apart =>
            refine .inr ⟨?_, ?_⟩
            · intro outputTarget errorTarget outputLine errorLine
              refine eq_false_of_ne_true fun same => apart ?_
              exact (sharesOutput_iff line).mpr ⟨outputTarget, errorTarget, outputLine, errorLine, same⟩
            · split at error
              · next own =>
                  obtain ⟨rfl, _⟩ := Prod.mk.inj (Except.ok.inj error)
                  exact exists_opensEnd .error (opens.plain plain) own
              · cases error

/-- Targets that share an open file lead to the same place. -/
theorem eq_of_shared (plain : files.Plain) {output error : OutputTarget} (outputLine : line.output = some output)
    (errorLine : line.error = some error)
    (same : Targets.sameFile files viewer (Target.of home directory output.path).path
      (Target.of home directory error.path).path = true)
    {otherPlace : Location} {otherNumber : Nat} (takes : line.Takes files viewer home directory .output place number)
    (takesError : line.Takes files viewer home directory .error otherPlace otherNumber) : otherPlace = place := by
  obtain ⟨_, found, denotes⟩ := takes
  cases found.symm.trans outputLine
  obtain ⟨_, found, otherwise⟩ := takesError
  cases found.symm.trans errorLine
  exact (Targets.place_of_sameFile plain same denotes otherwise).symm

/-- Targets with open files of their own lead to different places. -/
theorem ne_of_own {takenError : Option (Location × Nat)}
    (opens : line.OpensEnd viewer home directory .output files left taken)
    (opensError : line.OpensEnd viewer home directory .error left after takenError)
    (apart : ∀ output error, line.output = some output → line.error = some error →
      Targets.sameFile left viewer (Target.of home directory output.path).path
        (Target.of home directory error.path).path = false)
    {otherPlace : Location} {otherNumber : Nat} (output : taken = some (place, number))
    (error : takenError = some (otherPlace, otherNumber)) : otherPlace ≠ place := by
  subst output error
  cases opens with
  | opened outputLine opens =>
      cases opensError with
      | opened errorLine opensError => exact opens.ne_of_apart opensError (apart _ _ outputLine errorLine)

end

/-- What opening the targets of a line leaves of the files. -/
structure Changes (line : Line) (files after : FileSystem) (viewer : Viewer) (home : Option String) (directory : String)
    (redirects : Redirects) : Prop where
  fits : redirects.Fits line
  plain : after.Plain
  single : after.SinglyNamed
  output : line.output.isSome = true → ∃ place number, line.Takes after viewer home directory .output place number
  /-- A path that leads nowhere can still be the path of the output, but for its spelling. -/
  error : ∀ error, line.error = some error →
    (∃ place number, line.Takes after viewer home directory .error place number) ∨
      ∃ output, line.output = some output ∧
        Path.same (Target.of home directory output.path).path (Target.of home directory error.path).path = true
  /-- Every path leads to the file to which it has led before, and to a new file only if it has led
  to none. -/
  paths : ∀ path place number,
    files.Denotes viewer path place number ↔ after.Denotes viewer path place number ∧ number < files.stored.length
  /-- New names, new files and lost contents are those of the targets. -/
  only : files.OnlyAt after viewer fun place number =>
    ∃ sink, line.Takes after viewer home directory sink place number
  /-- A file to which no target has led before is as it was. -/
  untouched : ∀ number, number < files.stored.length →
    (∀ sink place, ¬line.Takes files viewer home directory sink place number) →
      after.stored[number]? = files.stored[number]?
  /-- The operator of the output decides, also where the errors go to the same file. -/
  ofOutput : ∀ place number, line.Takes after viewer home directory .output place number →
    after.content (.file number) = line.kept .output (files.content (.file number))
  ofError : ∀ place number, line.Takes after viewer home directory .error place number →
    (∀ other, ¬line.Takes after viewer home directory .output other number) →
      after.content (.file number) = line.kept .error (files.content (.file number))
  input : ∀ path, line.input = some path → ∃ location file, redirects.input = some file ∧
    files.stat viewer (Target.of home directory path).path = .ok (location, file.node) ∧
    ((∀ sink place number, line.Takes files viewer home directory sink place number → file.node ≠ .file number) →
      after.content file.node = files.content file.node)

section

variable {line : Line} {files left after : FileSystem} {viewer : Viewer} {home : Option String} {directory : String}
  {redirects : Redirects} {taken : Option (Location × Nat)}

/-- The input is a file that was there before, or no stored file. -/
theorem input_of_openTargets (plain : files.Plain)
    (validated : line.openTargets files viewer home directory = (after, .ok redirects))
    (untouched : ∀ number, number < files.stored.length →
      (∀ sink place, ¬line.Takes files viewer home directory sink place number) →
        after.stored[number]? = files.stored[number]?) {path : String} (input : line.input = some path) :
    ∃ location file, redirects.input = some file ∧
      files.stat viewer (Target.of home directory path).path = .ok (location, file.node) ∧
      ((∀ sink place number, line.Takes files viewer home directory sink place number → file.node ≠ .file number) →
        after.content file.node = files.content file.node) := by
  obtain ⟨location, node, opened, found⟩ := stat_of_openTargets validated input
  refine ⟨location, _, opened, found, ?_⟩
  intro foreign
  dsimp only at foreign ⊢
  cases node with
  | file number =>
      have denotes : files.Denotes viewer (Target.of home directory path).path location number :=
        (FileSystem.stat_eq_ok_iff.mp found).2
      have old := (((FileSystem.Grows.refl files).denotes_iff plain plain).mp denotes).2
      have same := untouched number old fun sink place takes => foreign sink place number takes rfl
      rw [FileSystem.content, FileSystem.fileOf?, same]
      rfl
  | directory | link | device | program | pipe => rfl

/-- Whatever the targets do to their own files, nothing else is touched. -/
theorem changes_of_onlyAt (plain : files.Plain) (plainAfter : after.Plain) (singleAfter : after.SinglyNamed)
    (validated : line.openTargets files viewer home directory = (after, .ok redirects))
    (only : files.OnlyAt after viewer fun place number =>
      ∃ sink, line.Takes after viewer home directory sink place number)
    (output : line.output.isSome = true → ∃ place number, line.Takes after viewer home directory .output place number)
    (error : ∀ error, line.error = some error →
      (∃ place number, line.Takes after viewer home directory .error place number) ∨
        ∃ output, line.output = some output ∧
          Path.same (Target.of home directory output.path).path (Target.of home directory error.path).path = true)
    (ofOutput : ∀ place number, line.Takes after viewer home directory .output place number →
      after.content (.file number) = line.kept .output (files.content (.file number)))
    (ofError : ∀ place number, line.Takes after viewer home directory .error place number →
      (∀ other, ¬line.Takes after viewer home directory .output other number) →
        after.content (.file number) = line.kept .error (files.content (.file number))) :
    line.Changes files after viewer home directory redirects := by
  have untouched (number : Nat) (old : number < files.stored.length)
      (foreign : ∀ sink place, ¬line.Takes files viewer home directory sink place number) :
      after.stored[number]? = files.stored[number]? := by
    refine only.untouched number ?_
    rintro place ⟨sink, takes⟩
    exact foreign sink place (takes.before plain plainAfter only.grows old)
  exact {
    fits := fits_of_openTargets validated
    plain := plainAfter
    single := singleAfter
    output, error, only, untouched, ofOutput, ofError
    paths := fun _ _ _ => only.grows.denotes_iff plain plainAfter
    input := fun _ input => input_of_openTargets plain validated untouched input }

/-- The errors share the open file of the output. -/
theorem changes_of_shared (plain : files.Plain) (single : files.SinglyNamed)
    (opens : line.OpensEnd viewer home directory .output files after taken) {output error : OutputTarget}
    (outputLine : line.output = some output) (errorLine : line.error = some error)
    (same : Targets.sameFile after viewer (Target.of home directory output.path).path
      (Target.of home directory error.path).path = true)
    (validated : line.openTargets files viewer home directory = (after, .ok redirects)) :
    line.Changes files after viewer home directory redirects := by
  have plainAfter := opens.plain plain
  have singleAfter := opens.single plain single
  obtain ⟨place, number, rfl⟩ := opens.exists_taken outputLine
  have takesOutput {here : Location} {other : Nat} :
      line.Takes after viewer home directory .output here other ↔ some (place, number) = some (here, other) :=
    opens.takes_iff (.refl after) plainAfter
  have takes : line.Takes after viewer home directory .output place number := takesOutput.mpr rfl
  refine changes_of_onlyAt plain plainAfter singleAfter validated ?only ?output ?error ?ofOutput ?ofError
  case only => exact (opens.onlyAt plain).mono fun _ _ here => ⟨.output, takesOutput.mpr here⟩
  case output => exact fun _ => ⟨place, number, takes⟩
  case error =>
    intro target found
    cases found.symm.trans errorLine
    obtain ⟨_, found, denotes⟩ := takes
    cases found.symm.trans outputLine
    rcases Bool.or_eq_true_iff.mp same with spelled | canonical
    · exact .inr ⟨output, outputLine, spelled⟩
    · split at canonical
      · next here other outputCanonical errorCanonical =>
          obtain rfl := denotes.of_canonical outputCanonical
          obtain rfl : here = other := eq_of_beq canonical
          have present := (plainAfter.denotes_iff.mp denotes).2
          exact .inl ⟨here, number, error, errorLine, plainAfter.denotes_of_canonical errorCanonical present⟩
      · cases canonical
  case ofOutput =>
    intro here other taken
    cases takesOutput.mp taken
    exact opens.content_taken
  case ofError =>
    -- The file of the errors is the one of the output.
    intro here other takesError foreign
    obtain rfl := eq_of_shared plainAfter outputLine errorLine same takes takesError
    cases (takes.get?_eq plainAfter).symm.trans (takesError.get?_eq plainAfter)
    exact absurd takes (foreign _)

/-- The errors have an open file of their own, or there is none for them. -/
theorem changes_of_own (plain : files.Plain) (single : files.SinglyNamed) {takenError : Option (Location × Nat)}
    (opens : line.OpensEnd viewer home directory .output files left taken)
    (opensError : line.OpensEnd viewer home directory .error left after takenError)
    (apart : ∀ output error, line.output = some output → line.error = some error →
      Targets.sameFile left viewer (Target.of home directory output.path).path
        (Target.of home directory error.path).path = false)
    (validated : line.openTargets files viewer home directory = (after, .ok redirects)) :
    line.Changes files after viewer home directory redirects := by
  have plainLeft := opens.plain plain
  have plainAfter := opensError.plain plainLeft
  have singleAfter := opensError.single plainLeft (opens.single plain single)
  have takesOutput {here : Location} {number : Nat} :
      line.Takes after viewer home directory .output here number ↔ taken = some (here, number) :=
    opens.takes_iff (opensError.onlyAt plainLeft).grows plainAfter
  have takesError {here : Location} {number : Nat} :
      line.Takes after viewer home directory .error here number ↔ takenError = some (here, number) :=
    opensError.takes_iff (.refl after) plainAfter
  refine changes_of_onlyAt plain plainAfter singleAfter validated ?only ?output ?error ?ofOutput ?ofError
  case only =>
    refine .trans ((opens.onlyAt plain).mono ?_) ((opensError.onlyAt plainLeft).mono ?_)
    · exact fun _ _ here => ⟨.output, takesOutput.mpr here⟩
    · exact fun _ _ here => ⟨.error, takesError.mpr here⟩
  case output =>
    intro present
    obtain ⟨target, found⟩ := Option.isSome_iff_exists.mp present
    obtain ⟨place, number, same⟩ := opens.exists_taken found
    exact ⟨place, number, takesOutput.mpr same⟩
  case error =>
    intro target found
    obtain ⟨place, number, same⟩ := opensError.exists_taken found
    exact .inl ⟨place, number, takesError.mpr same⟩
  case ofOutput =>
    intro place number takes
    obtain rfl := takesOutput.mp takes
    rw [opensError.content_other plainLeft, opens.content_taken]
    -- The errors go to another place, so they go to another file.
    intro other error
    refine ne_of_own opens opensError apart rfl error ?_
    exact singleAfter _ _ number ((takesError.mpr error).get?_eq plainAfter) (takes.get?_eq plainAfter)
  case ofError =>
    intro place number takes foreign
    obtain rfl := takesError.mp takes
    rw [opensError.content_taken, opens.content_other plain]
    exact fun other output => foreign other (takesOutput.mpr output)

/-- For every tree of files, directories and links in which each file has one name, however the
paths are spelled and wherever their links lead: opening the targets of a line creates and
empties the files of its output and its errors as their operators say, and nothing else
changes. -/
theorem changes_of_openTargets (plain : files.Plain) (single : files.SinglyNamed)
    (validated : line.openTargets files viewer home directory = (after, .ok redirects)) :
    line.Changes files after viewer home directory redirects := by
  obtain ⟨left, taken, opens, ⟨output, error, outputLine, errorLine, rfl, same⟩ | ⟨apart, takenError, opensError⟩⟩ :=
    exists_opensEnds plain validated
  · exact changes_of_shared plain single opens outputLine errorLine same validated
  · exact changes_of_own plain single opens opensError apart validated

/-- All targets are one file behind different links, and the errors do not empty what the output
appends to. -/
theorem changes_of_openTargets_linked :
    let files : FileSystem :=
      { entries := [([], .directory ⟨0o755, 0⟩), (["f"], .file 0), (["l"], .link "f")]
        stored := [⟨⟨0o644, 0⟩, [111, 108, 100, 10]⟩] }
    let line : Line :=
      { stages := [⟨["cat"]⟩], input := some "f", output := some ⟨"l", true⟩, error := some ⟨"~/./f", false⟩ }
    files.Plain ∧ files.SinglyNamed ∧
      ∃ after redirects, line.openTargets files ⟨0, [], 0⟩ (some "/") "/" = (after, .ok redirects) ∧
        line.Takes after ⟨0, [], 0⟩ (some "/") "/" .output ["f"] 0 ∧
        line.Takes after ⟨0, [], 0⟩ (some "/") "/" .error ["f"] 0 ∧ after.content (.file 0) = [111, 108, 100, 10] := by
  intro files line
  have plain : files.Plain := .of_entries (by decide) (by decide)
  have single : files.SinglyNamed := .of_entries (by decide)
  have validated : line.openTargets files ⟨0, [], 0⟩ (some "/") "/" = (files, .ok
      { input := some { node := .file 0, writable := false }
        output := some (.ofMode .append (.file 0))
        error := some .shared }) := by
    cbv
  have output : line.Takes files ⟨0, [], 0⟩ (some "/") "/" .output ["f"] 0 := ⟨_, rfl, by cbv⟩
  have error : line.Takes files ⟨0, [], 0⟩ (some "/") "/" .error ["f"] 0 := ⟨_, rfl, by cbv⟩
  have changes := changes_of_openTargets plain single validated
  exact ⟨plain, single, _, _, validated, output, error, changes.ofOutput ["f"] 0 output⟩

/-- A file with two names, to one of which the output goes and to the other one the errors, is opened
twice, since only names are compared: it keeps what both operators keep. -/
theorem content_of_two_names (plain : files.Plain)
    (validated : line.openTargets files viewer home directory = (after, .ok redirects)) {place other : Location}
    {number : Nat} (takes : line.Takes after viewer home directory .output place number)
    (takesError : line.Takes after viewer home directory .error other number) (different : other ≠ place) :
    after.content (.file number) = line.kept .error (line.kept .output (files.content (.file number))) := by
  obtain ⟨left, taken, opens, ⟨output, error, outputLine, errorLine, rfl, same⟩ | ⟨apart, takenError, opensError⟩⟩ :=
    exists_opensEnds plain validated
  · exact absurd (eq_of_shared (opens.plain plain) outputLine errorLine same takes takesError) different
  · have plainLeft := opens.plain plain
    have plainAfter := opensError.plain plainLeft
    obtain rfl := (opens.takes_iff (opensError.onlyAt plainLeft).grows plainAfter).mp takes
    obtain rfl := (opensError.takes_iff (.refl after) plainAfter).mp takesError
    rw [opensError.content_taken, opens.content_taken]

end

end Line

end PipeShell
