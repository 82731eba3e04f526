import PipeShell.Proofs.System.Opening
import PipeShell.Proofs.System.Ways

/-! # Which file a path denotes

Among plain files, directories and links, opening a path for writing leads to a stored
file: the one that the path denotes already, or a new one that it denotes from then on.
What other paths denote stays the same. -/

set_option autoImplicit false

namespace PipeShell.System.FileSystem

/-- The path leads to a stored file, found at a place. -/
def Denotes (files : FileSystem) (viewer : Viewer) (path : String) (place : Location) (number : Nat) : Prop :=
  files.follow viewer .follow path (Path.names path) = .ok ⟨place, some (.file number)⟩

/-- Where a path leads. -/
abbrev Leads (files : FileSystem) (viewer : Viewer) (path : String) (place : Location) : Prop :=
  files.Way viewer.user linkLimit (Path.origin viewer.directory path) (Path.names path) place

section

variable {files later : FileSystem} {viewer : Viewer} {path other : String} {place otherPlace : Location}
  {number otherNumber : Nat}

theorem Plain.denotes_iff (plain : files.Plain) :
    files.Denotes viewer path place number ↔ files.Leads viewer path place ∧ files.get? place = some (.file number) := by
  constructor
  · intro denotes
    obtain ⟨way, node⟩ := plain.way_of_walk LastName.noConfusion (walk_of_follow denotes)
    exact ⟨way, node.symm⟩
  · rintro ⟨way, found⟩
    rw [Denotes, follow, plain.walk_of_way way, found]
    rfl

theorem Denotes.unique (denotes : files.Denotes viewer path place number)
    (otherwise : files.Denotes viewer path otherPlace otherNumber) : place = otherPlace ∧ number = otherNumber := by
  cases denotes.symm.trans otherwise
  exact ⟨rfl, rfl⟩

/-- What paths denote stays the same, and only new files are denoted by other ones. -/
theorem Grows.denotes_iff (grows : Grows files later) (plain : files.Plain) (plainLater : later.Plain) :
    files.Denotes viewer path place number ↔ later.Denotes viewer path place number ∧ number < files.stored.length := by
  rw [plain.denotes_iff, plainLater.denotes_iff]
  constructor
  · rintro ⟨way, found⟩
    refine ⟨⟨grows.alike.way way, grows.get? found⟩, ?_⟩
    rcases plain.kinds place _ found with ⟨other, same, bound⟩ | ⟨_, same⟩ | ⟨_, same⟩
    · cases same
      exact bound
    · cases same
    · cases same
  · rintro ⟨⟨way, found⟩, old⟩
    refine ⟨grows.alike.symm.way way, grows.get?_before found ?_⟩
    rintro _ ⟨rfl⟩
    exact old

theorem Denotes.grows (denotes : files.Denotes viewer path place number) (plain : files.Plain) (plainLater : later.Plain)
    (grows : Grows files later) : later.Denotes viewer path place number :=
  ((grows.denotes_iff plain plainLater).mp denotes).1

theorem Denotes.canonical (denotes : files.Denotes viewer path place number) (checked : checkPath path = .ok ()) :
    files.canonical viewer path = .ok place := by
  obtain ⟨noNul, nonempty, _⟩ := checkPath_eq_ok_iff.mp checked
  exact canonical_eq_ok_iff.mpr ⟨noNul, nonempty, _, denotes⟩

/-- What a path denotes is told by where it canonically leads. -/
theorem Denotes.of_canonical (denotes : files.Denotes viewer path place number)
    (canonical : files.canonical viewer path = .ok otherPlace) : otherPlace = place := by
  obtain ⟨_, _, _, followed⟩ := canonical_eq_ok_iff.mp canonical
  cases denotes.symm.trans followed
  rfl

theorem Plain.denotes_of_canonical (plain : files.Plain) (canonical : files.canonical viewer path = .ok place)
    (found : files.get? place = some (.file number)) : files.Denotes viewer path place number := by
  obtain ⟨_, _, _, followed⟩ := canonical_eq_ok_iff.mp canonical
  obtain ⟨way, _⟩ := plain.way_of_walk LastName.noConfusion (walk_of_follow followed)
  exact plain.denotes_iff.mpr ⟨way, found⟩

theorem Denotes.of_same (plain : files.Plain) (same : Path.same path other = true)
    (denotes : files.Denotes viewer path place number) (otherwise : files.Denotes viewer other otherPlace otherNumber) :
    place = otherPlace ∧ number = otherNumber := by
  obtain ⟨way, found⟩ := plain.denotes_iff.mp denotes
  obtain ⟨otherWay, otherFound⟩ := plain.denotes_iff.mp otherwise
  obtain rfl := plain.way_of_same same way otherWay
  cases found.symm.trans otherFound
  exact ⟨rfl, rfl⟩

end

/-! ## Opening -/

section

variable {files left : FileSystem} {viewer : Viewer} {mode : WriteMode} {path : String} {file : OpenFile}

theorem get?_prepare (files : FileSystem) (mode : WriteMode) (node : Node) (place : Location) :
    (files.prepare mode node).get? place = files.get? place := by
  unfold prepare
  split
  · split <;> rfl
  · rfl

theorem length_stored_prepare (files : FileSystem) (mode : WriteMode) (node : Node) :
    (files.prepare mode node).stored.length = files.stored.length := by
  unfold prepare
  split
  · split
    · exact List.length_set
    · rfl
  · rfl

private theorem Plain.prepare (plain : files.Plain) (mode : WriteMode) (node : Node) :
    (files.prepare mode node).Plain := by
  have directories (place : Location) : (files.prepare mode node).IsDirectory place ↔ files.IsDirectory place := by
    simp only [IsDirectory, get?_prepare]
  constructor
  case kinds =>
    intro place found present
    rw [get?_prepare] at present
    rw [length_stored_prepare]
    exact plain.kinds place found present
  case root => exact (directories []).mpr plain.root
  case parents =>
    intro place found present
    rw [get?_prepare] at present
    exact (directories _).mpr (plain.parents place found present)
  case unmounted => exact fun mounted => plain.unmounted ((directories _).mp mounted)

private theorem isDirectory_of_mayChange {place : Location} (may : files.mayChange viewer place = true) :
    files.IsDirectory place := by
  unfold mayChange at may
  split at may
  · next attributes found => exact ⟨attributes, found⟩
  · cases may

theorem grows_create {place : Location} (missing : files.get? place = none) (file : File) :
    Grows files (files.create place file) where
  places := by
    intro other
    rw [get?_create]
    split
    · next here => exact .inr ⟨here ▸ missing, _, Nat.le_refl _, rfl⟩
    · exact .inl rfl
  length := by
    rw [create, List.length_append]
    exact Nat.le_add_right _ _

private theorem grows_prepare (files : FileSystem) (mode : WriteMode) (node : Node) :
    Grows files (files.prepare mode node) where
  places := fun place => .inl (get?_prepare files mode node place)
  length := Nat.le_of_eq (length_stored_prepare files mode node).symm

private theorem Plain.create (plain : files.Plain) {place : Location} (missing : files.get? place = none)
    (parent : files.IsDirectory place.dropLast) (file : File) : (files.create place file).Plain := by
  have kept {other : Location} (directory : files.IsDirectory other) : (files.create place file).IsDirectory other := by
    obtain ⟨attributes, found⟩ := directory
    exact ⟨attributes, (grows_create missing file).get? found⟩
  constructor
  case kinds =>
    intro other node present
    have length : (files.create place file).stored.length = files.stored.length + 1 := List.length_append
    rw [get?_create] at present
    rw [length]
    split at present
    · cases present
      exact .inl ⟨_, rfl, Nat.lt_succ_self _⟩
    · rcases plain.kinds other node present with ⟨number, rfl, bound⟩ | directory | link
      · exact .inl ⟨number, rfl, Nat.lt_succ_of_lt bound⟩
      · exact .inr (.inl directory)
      · exact .inr (.inr link)
  case root => exact kept plain.root
  case parents =>
    intro other node present
    rw [get?_create] at present
    split at present
    · next here => exact kept (here ▸ parent)
    · exact kept (plain.parents other node present)
  case unmounted =>
    rintro ⟨attributes, found⟩
    rw [get?_create] at found
    split at found
    · cases found
    · exact plain.unmounted ⟨attributes, found⟩

/-- A path was opened for writing: it denotes the file that was opened, which it denoted
before if it is not a new one. -/
structure OpensFile (files : FileSystem) (viewer : Viewer) (mode : WriteMode) (path : String) (left : FileSystem)
    (file : OpenFile) (place : Location) (number : Nat) : Prop where
  opened : Opened files viewer mode left file
  checked : checkPath path = .ok ()
  node : file.node = .file number
  plain : left.Plain
  grows : Grows files left
  denotes : left.Denotes viewer path place number
  stored : number < left.stored.length
  origin : files.Denotes viewer path place number ∨ files.stored.length ≤ number ∧ files.get? place = none

theorem Plain.opensFile (plain : files.Plain) (opened : files.openWrite viewer mode path = .ok (left, file)) :
    ∃ place number, OpensFile files viewer mode path left file place number := by
  have effect := opened_of_openWrite opened
  unfold openWrite at opened
  cases checked : checkPath path with
  | error failure =>
      rw [checked] at opened
      cases opened
  | ok =>
      cases followed : files.follow viewer .create path (Path.names path) with
      | error failure =>
          rw [checked, followed] at opened
          cases opened
      | ok found =>
          obtain ⟨place, node⟩ := found
          obtain ⟨way, present⟩ := plain.way_of_walk LastName.noConfusion (walk_of_follow followed)
          dsimp only at way present
          rw [checked, followed] at opened
          simp only [bind, Except.bind] at opened
          cases node with
          | none =>
              dsimp only at opened
              split at opened
              · cases opened
                have grows := grows_create present.symm ⟨newFile viewer, []⟩
                have plainLater := plain.create present.symm (isDirectory_of_mayChange ‹_›) ⟨newFile viewer, []⟩
                refine ⟨place, files.stored.length, effect, checked, rfl, plainLater, grows, ?_, ?_, .inr ?_⟩
                · exact plainLater.denotes_iff.mpr ⟨grows.alike.way way, by rw [get?_create, if_pos rfl]⟩
                · exact List.length_append ▸ Nat.lt_succ_self _
                · exact ⟨Nat.le_refl _, present.symm⟩
              · cases opened
          | some node =>
              -- Links were followed and directories are not opened, so this is a file.
              rcases plain.kinds place node present.symm with ⟨number, rfl, bound⟩ | ⟨attributes, rfl⟩ | ⟨target, rfl⟩
              · dsimp only at opened
                split at opened
                · cases opened
                  have grows := files.grows_prepare mode (.file number)
                  have denotes := plain.denotes_iff.mpr ⟨way, present.symm⟩
                  have plainLater := plain.prepare mode (.file number)
                  refine ⟨place, number, effect, checked, rfl, plainLater, grows, denotes.grows plain plainLater grows, ?_,
                    .inl denotes⟩
                  rw [length_stored_prepare]
                  exact bound
                · cases opened
              · cases opened
              · exact absurd present.symm (plain.ne_link (checkPath_eq_ok_iff.mp checked).2.1 way target)

/-- At most the place that the path leads to gets a name, that of a new file. -/
theorem OpensFile.get?_eq {place : Location} {number : Nat}
    (opens : OpensFile files viewer mode path left file place number) (plain : files.Plain) (other : Location) :
    left.get? other = files.get? other ∨
      files.get? other = none ∧ other = place ∧ files.stored.length ≤ number ∧ left.get? other = some (.file number) ∧
        left.stored[number]? = some ⟨newFile viewer, []⟩ := by
  obtain ⟨_, found⟩ := opens.plain.denotes_iff.mp opens.denotes
  have node := opens.node
  have opened := opens.opened
  rcases opens.grows.places other with same | ⟨missing, fresh, beyond, present⟩
  · exact .inl same
  · refine .inr ⟨missing, ?_⟩
    cases opened with
    | emptied => cases missing.symm.trans present
    | kept => cases missing.symm.trans present
    | @created location _ =>
        obtain rfl : files.stored.length = number := Node.file.inj node
        rw [get?_create] at present found
        have here : other = location := by
          split at present
          · assumption
          · cases missing.symm.trans present
        -- No older name leads to the new file.
        have there : place = location := by
          split at found
          · assumption
          · rcases plain.kinds place _ found with ⟨other, same, bound⟩ | ⟨_, same⟩ | ⟨_, same⟩
            · cases same
              omega
            · cases same
            · cases same
        refine ⟨here.trans there.symm, Nat.le_refl _, ?_, ?_⟩
        · rw [get?_create, if_pos here]
        · simp [create]

/-- No file is new but the one that was opened. -/
theorem OpensFile.eq_of_fresh {place : Location} {number other : Nat}
    (opens : OpensFile files viewer mode path left file place number) (beyond : files.stored.length ≤ other)
    (stored : other < left.stored.length) : other = number := by
  have node := opens.node
  have opened := opens.opened
  cases opened with
  | created =>
      obtain rfl : files.stored.length = number := Node.file.inj node
      rw [create, List.length_append, List.length_singleton] at stored
      omega
  | emptied =>
      rw [setFile, List.length_set] at stored
      omega
  | kept => omega

end

/-! ## What else may change -/

/-- Nothing has changed but some files: those that are new have got their names, and those that
were there may have lost their content. -/
structure OnlyAt (files left : FileSystem) (viewer : Viewer) (among : Location → Nat → Prop) : Prop where
  grows : Grows files left
  names : ∀ place, left.get? place = files.get? place ∨
    files.get? place = none ∧ ∃ number, among place number ∧ files.stored.length ≤ number ∧
      left.get? place = some (.file number) ∧ left.stored[number]? = some ⟨newFile viewer, []⟩
  stored : ∀ (number : Nat) (file : File), files.stored[number]? = some file →
    left.stored[number]? = some file ∨ left.stored[number]? = some { file with content := [] }
  untouched : ∀ number, (∀ place, ¬among place number) → left.stored[number]? = files.stored[number]?
  created : ∀ number, files.stored.length ≤ number → number < left.stored.length → ∃ place, among place number
  descriptors : left.descriptors = files.descriptors

namespace OnlyAt

variable {files left later : FileSystem} {viewer : Viewer} {among others : Location → Nat → Prop}

theorem refl (files : FileSystem) (viewer : Viewer) (among : Location → Nat → Prop) : files.OnlyAt files viewer among where
  grows := .refl files
  names := fun _ => .inl rfl
  stored := fun _ _ found => .inl found
  untouched := fun _ _ => rfl
  created := fun _ beyond within => absurd within (Nat.not_lt.mpr beyond)
  descriptors := rfl

theorem mono (only : files.OnlyAt left viewer among) (more : ∀ place number, among place number → others place number) :
    files.OnlyAt left viewer others where
  grows := only.grows
  names := by
    intro place
    rcases only.names place with same | ⟨missing, number, here, fresh⟩
    · exact .inl same
    · exact .inr ⟨missing, number, more place number here, fresh⟩
  stored := only.stored
  untouched := fun number foreign => only.untouched number fun place here => foreign place (more place number here)
  created := by
    intro number beyond within
    obtain ⟨place, here⟩ := only.created number beyond within
    exact ⟨place, more place number here⟩
  descriptors := only.descriptors

theorem trans (only : files.OnlyAt left viewer among) (further : left.OnlyAt later viewer among) :
    files.OnlyAt later viewer among where
  grows := only.grows.trans further.grows
  names := by
    intro place
    rcases further.names place with same | ⟨missing, number, here, beyond, present, fresh⟩
    · rcases only.names place with before | ⟨missing, number, here, beyond, present, fresh⟩
      · exact .inl (same.trans before)
      · -- A file without content has nothing to lose.
        have still : later.stored[number]? = some ⟨newFile viewer, []⟩ := (further.stored number _ fresh).elim id id
        exact .inr ⟨missing, number, here, beyond, same.trans present, still⟩
    · rcases only.names place with before | ⟨_, _, _, _, present, _⟩
      · exact .inr ⟨before ▸ missing, number, here, Nat.le_trans only.grows.length beyond, present, fresh⟩
      · cases missing.symm.trans present
  stored := by
    intro number file found
    rcases only.stored number file found with kept | emptied
    · exact further.stored number file kept
    · exact .inr ((further.stored number _ emptied).elim id id)
  untouched := fun number foreign => (further.untouched number foreign).trans (only.untouched number foreign)
  created := by
    intro number beyond within
    rcases Nat.lt_or_ge number left.stored.length with before | after
    · exact only.created number beyond before
    · exact further.created number after within
  descriptors := further.descriptors.trans only.descriptors

end OnlyAt

theorem OpensFile.onlyAt {files left : FileSystem} {viewer : Viewer} {mode : WriteMode} {path : String} {file : OpenFile}
    {place : Location} {number : Nat} (opens : OpensFile files viewer mode path left file place number)
    (plain : files.Plain) : files.OnlyAt left viewer fun here other => here = place ∧ other = number where
  grows := opens.grows
  names := by
    intro other
    rcases opens.get?_eq plain other with same | ⟨missing, here, fresh⟩
    · exact .inl same
    · exact .inr ⟨missing, number, ⟨here, rfl⟩, fresh⟩
  stored := by
    intro other stored found
    rw [opens.opened.stored_eq found]
    split
    · exact .inr rfl
    · exact .inl rfl
  untouched := by
    intro other foreign
    refine opens.opened.stored_of_ne ?_
    rw [opens.node]
    exact fun same => foreign place ⟨rfl, (Node.file.inj same).symm⟩
  created := fun _ beyond within => ⟨place, rfl, opens.eq_of_fresh beyond within⟩
  descriptors := opens.opened.descriptors_eq

/-! ## Files with one name -/

/-- No file has two names. -/
def SinglyNamed (files : FileSystem) : Prop :=
  ∀ place other number, files.get? place = some (.file number) → files.get? other = some (.file number) → place = other

theorem SinglyNamed.of_entries {files : FileSystem}
    (named : ∀ entry ∈ files.entries, ∀ other ∈ files.entries, entry.2.isFile = true → entry.2 = other.2 →
      entry.1 = other.1) : files.SinglyNamed :=
  fun _ _ _ first second => named _ (mem_entries_of_get? first) _ (mem_entries_of_get? second) rfl rfl

/-- A file that is opened does not get a second name. -/
theorem SinglyNamed.opensFile {files left : FileSystem} {viewer : Viewer} {mode : WriteMode} {path : String}
    {file : OpenFile} {place : Location} {number : Nat} (single : files.SinglyNamed) (plain : files.Plain)
    (opens : OpensFile files viewer mode path left file place number) : left.SinglyNamed := by
  -- Older names lead to older files.
  have old {place : Location} {other : Nat} (found : files.get? place = some (.file other)) :
      other < files.stored.length := by
    rcases plain.kinds place _ found with ⟨_, same, bound⟩ | ⟨_, same⟩ | ⟨_, same⟩
    · cases same
      exact bound
    · cases same
    · cases same
  intro one two other first second
  rcases opens.get?_eq plain one with sameOne | ⟨_, hereOne, beyondOne, foundOne, _⟩
  · rcases opens.get?_eq plain two with sameTwo | ⟨_, _, beyondTwo, foundTwo, _⟩
    · exact single one two other (sameOne ▸ first) (sameTwo ▸ second)
    · cases foundTwo.symm.trans second
      exact absurd (old (sameOne ▸ first)) (Nat.not_lt.mpr beyondTwo)
  · rcases opens.get?_eq plain two with sameTwo | ⟨_, hereTwo, _⟩
    · cases foundOne.symm.trans first
      exact absurd (old (sameTwo ▸ second)) (Nat.not_lt.mpr beyondOne)
    · exact hereOne.trans hereTwo.symm

end PipeShell.System.FileSystem
