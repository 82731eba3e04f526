import PipeShell.System.OpenFile

/-! # What opening a file for writing changes

At most one location gets a new empty file, or at most one file loses its content.
All other files keep their names and what they hold. The file that was opened only
grows. -/

set_option autoImplicit false

namespace PipeShell.System.FileSystem

/-- What opening for writing leaves of a file system, with the open file. -/
inductive Opened (files : FileSystem) (viewer : Viewer) (mode : WriteMode) : FileSystem → OpenFile → Prop where
  /-- The file was missing. -/
  | created {location : Location} : files.get? location = none ∨ location.dropLast = descriptorDirectory →
      Opened files viewer mode (files.create location ⟨newFile viewer, []⟩) (.ofMode mode (.file files.stored.length))
  /-- The file was there, and its content goes away. -/
  | emptied {number : Nat} {file : File} : mode = .truncate → files.stored[number]? = some file →
      Opened files viewer mode (files.setFile number { file with content := [] }) (.ofMode mode (.file number))
  /-- The file was there, and it has no content or keeps it. -/
  | kept {node : Node} : (mode = .truncate → files.fileOf? node = none) →
      Opened files viewer mode files (.ofMode mode node)

/-- Where a way finds nothing there is nothing. Only the directory of the descriptors
hides what is stored below it. -/
theorem get?_of_walk {files : FileSystem} {user : User} {last : LastName} {links : Nat} {here : Location}
    {names : List String} {found : Found} (walked : files.walk user last links here names = .ok found) (missing : found.node = none) :
    files.get? found.location = none ∨ found.location.dropLast = descriptorDirectory := by
  fun_induction walk files user last links here names with
  | case1 links here =>
      cases walked
      exact .inl missing
  | case3 _ _ _ _ _ _ ih => exact ih walked
  | case4 _ _ _ _ _ ih => exact ih walked
  -- The way ends at a name that is missing; everywhere else it goes on or finds something.
  | case7 _ here name rest _ _ _ _ _ absent _ =>
      cases walked
      unfold find? at absent
      split at absent
      · next inside =>
          refine .inr ?_
          rw [List.dropLast_concat]
          exact eq_of_beq inside
      · exact .inl absent
  | case9 =>
      cases walked
      cases missing
  | case12 _ _ _ _ _ _ _ _ _ _ _ _ _ ih => exact ih walked
  | case13 _ _ _ _ _ _ _ _ _ _ _ ih => exact ih walked
  | case14 =>
      cases walked
      cases missing
  | case2 | case5 | case6 | case8 | case10 | case11 | case15 => cases walked

private theorem opened_prepare (files : FileSystem) (viewer : Viewer) (mode : WriteMode) (node : Node) :
    Opened files viewer mode (files.prepare mode node) (.ofMode mode node) := by
  cases node with
  | file number =>
      cases stored : files.stored[number]? with
      | none =>
          have same : files.prepare mode (.file number) = files := by
            simp only [prepare, stored]
          rw [same]
          exact .kept fun _ => stored
      | some file =>
          cases mode with
          | truncate =>
              simp only [prepare, stored]
              exact .emptied rfl stored
          | append => exact .kept fun truncates => nomatch truncates
          | update => exact .kept fun truncates => nomatch truncates
  | directory | link | device | program | pipe => exact .kept fun _ => rfl

theorem walk_of_follow {files : FileSystem} {viewer : Viewer} {last : LastName} {path : String} {names : List String}
    {found : Found} (followed : files.follow viewer last path names = .ok found) :
    files.walk viewer.user last linkLimit (Path.origin viewer.directory path) names = .ok found := by
  unfold follow at followed
  cases walked : files.walk viewer.user last linkLimit (Path.origin viewer.directory path) names with
  | error failure =>
      rw [walked] at followed
      cases followed
  | ok other =>
      rw [walked] at followed
      cases followed
      rfl

theorem opened_of_openWrite {files after : FileSystem} {viewer : Viewer} {mode : WriteMode} {path : String}
    {file : OpenFile} (opened : files.openWrite viewer mode path = .ok (after, file)) :
    Opened files viewer mode after file := by
  unfold openWrite at opened
  cases checked : checkPath path with
  | error failure =>
      rw [checked] at opened
      cases opened
  | ok =>
      cases followed : files.follow viewer .create path (Path.names path) with
      | error failure =>
          rw [checked, followed] at opened
          cases opened
      | ok found =>
          obtain ⟨location, node⟩ := found
          rw [checked, followed] at opened
          simp only [bind, Except.bind] at opened
          cases node with
          | none =>
              dsimp only at opened
              split at opened
              · cases opened
                exact .created (get?_of_walk (walk_of_follow followed) rfl)
              · cases opened
          | some node =>
              split at opened
              · contradiction
              · cases opened
              · next other _ same =>
                  obtain rfl := Option.some.inj same
                  split at opened
                  · cases opened
                    exact opened_prepare files viewer mode node
                  · cases opened

section Frame

variable {files after : FileSystem} {viewer : Viewer} {mode : WriteMode} {file : OpenFile}

/-- Whatever has a name keeps it, and at most a new file gets one. -/
theorem Opened.get?_eq (opened : Opened files viewer mode after file) (place : Location)
    (visible : place.dropLast ≠ descriptorDirectory) :
    after.get? place = files.get? place ∨
      files.get? place = none ∧ after.get? place = some file.node ∧
        after.fileOf? file.node = some ⟨newFile viewer, []⟩ := by
  cases opened with
  | @created location missing =>
      rw [get?_create]
      split
      · next here =>
          subst here
          refine .inr ⟨missing.resolve_right visible, rfl, ?_⟩
          simp [OpenFile.ofMode, fileOf?, create]
      · exact .inl rfl
  | emptied => exact .inl rfl
  | kept => exact .inl rfl

/-- What is stored stays, apart from the content of a file that is emptied. -/
theorem Opened.stored_eq (opened : Opened files viewer mode after file) {number : Nat} {stored : File}
    (found : files.stored[number]? = some stored) : after.stored[number]? =
      some (if mode = .truncate ∧ file.node = .file number then { stored with content := [] } else stored) := by
  have bound := (List.getElem?_eq_some_iff.mp found).1
  cases opened with
  | created missing =>
      have different : files.stored.length ≠ number := by omega
      simpa [OpenFile.ofMode, create, different, List.getElem?_append_left bound] using found
  | @emptied other _ truncates present =>
      by_cases same : other = number
      · subst same
        obtain rfl := Option.some.inj (present.symm.trans found)
        simp [OpenFile.ofMode, setFile, truncates, bound]
      · simpa [OpenFile.ofMode, setFile, same] using found
  | @kept node empty =>
      rw [if_neg]
      · exact found
      · rintro ⟨truncates, here⟩
        have absent := empty truncates
        rw [show node = .file number from here, fileOf?, found] at absent
        cases absent

/-- Every file is still found where it was, with what it held unless it is the one that
was emptied. -/
theorem Opened.file?_eq (opened : Opened files viewer mode after file) {place : Location}
    (visible : place.dropLast ≠ descriptorDirectory) {stored : File} (found : files.file? place = some stored) :
    after.file? place = some (if mode = .truncate ∧ files.get? place = some file.node then { stored with content := [] }
      else stored) := by
  obtain ⟨node, named, foundNode⟩ := Option.bind_eq_some_iff.mp found
  have kept : after.get? place = some node := by
    rcases opened.get?_eq place visible with same | ⟨missing, _⟩
    · exact same.trans named
    · cases missing.symm.trans named
  cases node with
  | file number =>
      rw [file?, kept, named, Option.bind_some, fileOf?, opened.stored_eq foundNode]
      simp only [Option.some.injEq, eq_comm]
  | directory | link | device | program | pipe => cases foundNode

end Frame

end PipeShell.System.FileSystem

/-! ## Files that only grow

A file that was just opened for output takes all bytes at its end, and a file that nobody
writes gives its bytes in order. -/

namespace PipeShell.System

namespace FileSystem

/-- The bytes behind a node, if it is a stored file. -/
def content (files : FileSystem) (node : Node) : Bytes := (files.fileOf? node).elim [] File.content

/-- The file system with bytes added to the end of a stored file. -/
def extend (files : FileSystem) (number : Nat) (data : Bytes) : FileSystem :=
  { files with stored := files.stored.modify number fun file => { file with content := file.content ++ data } }

/-- The file system with bytes added to the end of a stored file, if there is one to take
them. -/
def extendTo (files : FileSystem) (number : Option Nat) (data : Bytes) : FileSystem :=
  number.elim files fun number => files.extend number data

theorem remaining_eq (files : FileSystem) (file : OpenFile) :
    files.remaining file = (files.content file.node).drop file.offset := rfl

theorem stored_extend (files : FileSystem) (number other : Nat) (data : Bytes) :
    (files.extend number data).stored[other]? = (files.stored[other]?).map fun file =>
      if number = other then { file with content := file.content ++ data } else file := by
  rw [extend, List.getElem?_modify]
  cases files.stored[other]? <;> rfl

@[simp] theorem extend_nil (files : FileSystem) (number : Nat) : files.extend number [] = files := by
  have same : files.stored.modify number (fun file => { file with content := file.content ++ [] }) = files.stored := by
    simp only [List.append_nil]
    exact List.modify_id number files.stored
  rw [extend, same]

@[simp] theorem extendTo_nil (files : FileSystem) (number : Option Nat) : files.extendTo number [] = files := by
  cases number with
  | none => rfl
  | some number => exact extend_nil files number

theorem extend_extend (files : FileSystem) (number : Nat) (data more : Bytes) :
    (files.extend number data).extend number more = files.extend number (data ++ more) := by
  simp [extend, List.modify_modify_eq, Function.comp_def]

theorem extend_comm (files : FileSystem) {number other : Nat} (different : number ≠ other) (data more : Bytes) :
    (files.extend number data).extend other more = (files.extend other more).extend number data := by
  simp only [extend]
  rw [List.modify_modify_ne _ _ _ different]

theorem content_extend_of_ne (files : FileSystem) {number : Nat} {node : Node} (other : node ≠ .file number)
    (data : Bytes) : (files.extend number data).content node = files.content node := by
  cases node with
  | file place =>
      have different : number ≠ place := fun same => other (same ▸ rfl)
      simp [content, fileOf?, stored_extend, different]
  | directory | link | device | program | pipe => rfl

theorem content_extend (files : FileSystem) {number : Nat} {stored : File} (found : files.stored[number]? = some stored)
    (data : Bytes) : (files.extend number data).content (.file number) = files.content (.file number) ++ data := by
  simp [content, fileOf?, stored_extend, found]

theorem content_extendTo {files : FileSystem} {number : Nat} (present : (files.stored[number]?).isSome)
    (target : Option Nat) (data : Bytes) :
    ((files.extendTo target data).stored[number]?).isSome ∧
      (files.extendTo target data).content (.file number) =
        files.content (.file number) ++ if target = some number then data else [] := by
  obtain ⟨stored, found⟩ := Option.isSome_iff_exists.mp present
  cases target with
  | none => exact ⟨present, (List.append_nil _).symm⟩
  | some other =>
      refine ⟨by simp [extendTo, stored_extend, found], ?_⟩
      by_cases same : other = number
      · subst same
        rw [if_pos rfl]
        exact content_extend files found data
      · have different : Node.file number ≠ .file other := fun nodes => same (Node.file.inj nodes).symm
        rw [if_neg fun targets => same (Option.some.inj targets), List.append_nil]
        exact content_extend_of_ne files different data

end FileSystem

namespace OpenFile

/-! ## Writing at the end -/

/-- Whatever is written to the open file goes to the end of a stored file. -/
structure Appends (file : OpenFile) (files : FileSystem) (number : Nat) : Prop where
  node : file.node = .file number
  writable : file.writable = true
  place : ∃ stored, files.stored[number]? = some stored ∧
    (file.append = true ∨ file.offset = stored.content.length)

private theorem overwrite_end (content data : Bytes) : overwrite content content.length data = content ++ data := by
  simp [overwrite]

theorem Appends.write {file : OpenFile} {files : FileSystem} {number : Nat} (appends : file.Appends files number)
    (data : Bytes) :
    ∃ later, files.write file data = .ok (files.extend number data, later) ∧
      later.Appends (files.extend number data) number := by
  obtain ⟨node, writable, stored, found, place⟩ := appends
  have offset : (if file.append = true then stored.content.length else file.offset) = stored.content.length := by
    split
    · rfl
    · next free => exact place.resolve_left free
  by_cases nothing : data = []
  · subst nothing
    rw [FileSystem.extend_nil]
    refine ⟨file, ?_, node, writable, stored, found, place⟩
    simp [FileSystem.write, writable, node, found]
  · refine ⟨{ file with offset := stored.content.length + data.length }, ?_, node, writable,
      { stored with content := stored.content ++ data }, ?_, .inr ?_⟩
    · have bound := (List.getElem?_eq_some_iff.mp found).1
      have extended : files.extend number data =
          files.setFile number { stored with content := stored.content ++ data } := by
        obtain ⟨_, rfl⟩ := List.getElem?_eq_some_iff.mp found
        simp only [FileSystem.extend, FileSystem.setFile]
        congr 1
        apply List.ext_getElem?
        intro other
        rw [List.getElem?_modify, List.getElem?_set]
        split
        · next same =>
            subst same
            simp [bound]
        · simp
      simp only [FileSystem.write, writable, node, found, offset, overwrite_end, extended, List.isEmpty_iff, nothing,
        Bool.not_true, Bool.false_eq_true, if_false]
    · simp [FileSystem.stored_extend, found]
    · simp

theorem Appends.extend_other {file : OpenFile} {files : FileSystem} {number other : Nat}
    (appends : file.Appends files number) (different : other ≠ number) (data : Bytes) :
    file.Appends (files.extend other data) number := by
  obtain ⟨node, writable, stored, found, place⟩ := appends
  refine ⟨node, writable, stored, ?_, place⟩
  simp [FileSystem.stored_extend, found, different]

/-! ## Reading in order -/

/-- The open file gives the bytes of a stored file, or none at all. -/
structure Supplies (file : OpenFile) : Prop where
  readable : file.readable = true
  node : (∃ number, file.node = .file number) ∨ file.node = .device .null

/-- A read takes bytes off the beginning of what remains. -/
theorem remaining_advanced (files : FileSystem) (file : OpenFile) (limit : Nat) :
    files.remaining { file with offset := file.offset + ((files.remaining file).take limit).length } =
      (files.remaining file).drop limit := by
  simp only [FileSystem.remaining_eq, List.drop_drop, List.length_take, List.length_drop]
  rcases Nat.le_total limit ((files.content file.node).length - file.offset) with short | long
  · rw [Nat.min_eq_left short]
  · rw [Nat.min_eq_right long, List.drop_eq_nil_of_le (by omega), List.drop_eq_nil_of_le (by omega)]

theorem Supplies.read {file : OpenFile} (supplies : file.Supplies) (files : FileSystem) (limit : Nat) :
    ∃ data later, files.read file limit = .ok (data, later) ∧ later.Supplies ∧ later.node = file.node ∧
      files.remaining file = data ++ files.remaining later ∧ data.length ≤ limit ∧
      (0 < limit → data = [] → files.remaining later = []) := by
  obtain ⟨readable, ⟨number, node⟩ | node⟩ := supplies
  · refine ⟨(files.remaining file).take limit,
      { file with offset := file.offset + ((files.remaining file).take limit).length }, ?_, ⟨readable, .inl ⟨number, node⟩⟩,
      rfl, ?_, List.length_take_le limit _, ?_⟩
    · simp [FileSystem.read, readable, node]
    · rw [remaining_advanced]
      exact (List.take_append_drop limit _).symm
    · intro positive nothing
      rw [remaining_advanced]
      rcases List.take_eq_nil_iff.mp nothing with zero | empty
      · omega
      · rw [empty, List.drop_nil]
  · have empty : files.remaining file = [] := by
      simp [FileSystem.remaining_eq, FileSystem.content, FileSystem.fileOf?, node]
    refine ⟨[], file, ?_, ⟨readable, .inr node⟩, rfl, rfl, Nat.zero_le _, fun _ _ => empty⟩
    simp [FileSystem.read, readable, node]

end OpenFile

/-! ## What opening leaves -/

namespace FileSystem.Opened

variable {files after : FileSystem} {viewer : Viewer} {mode : WriteMode} {file : OpenFile}

theorem stored_of_ne (opened : Opened files viewer mode after file) {number : Nat} (other : file.node ≠ .file number) :
    after.stored[number]? = files.stored[number]? := by
  cases opened with
  | created =>
      have different : files.stored.length ≠ number := fun same => other (congrArg Node.file same)
      rcases Nat.lt_or_gt_of_ne different with beyond | within
      · rw [List.getElem?_eq_none (by simp [create]; omega), List.getElem?_eq_none (by omega)]
      · exact List.getElem?_append_left within
  | emptied =>
      have different := fun same => other (congrArg Node.file same)
      exact List.getElem?_set_ne different
  | kept => rfl

theorem content_of_ne (opened : Opened files viewer mode after file) {node : Node} (other : file.node ≠ node) :
    after.content node = files.content node := by
  cases node with
  | file number => rw [content, content, fileOf?, opened.stored_of_ne other, fileOf?]
  | directory | link | device | program | pipe => rfl

/-- A stored file that was opened for output appends, and it holds what it held before or
nothing. -/
theorem appends (opened : Opened files viewer mode after file) (output : mode ≠ .update) {number : Nat}
    (node : file.node = .file number) {stored : File} (found : after.stored[number]? = some stored) :
    file.Appends after number ∧
      after.content file.node = if mode = .append then files.content file.node else [] := by
  cases opened with
  | created =>
      obtain rfl : files.stored.length = number := Node.file.inj node
      have fresh : (files.stored ++ [⟨newFile viewer, []⟩])[files.stored.length]? = some ⟨newFile viewer, []⟩ := by
        simp
      refine ⟨⟨rfl, rfl, _, fresh, .inr rfl⟩, ?_⟩
      simp [content, fileOf?, OpenFile.ofMode, create]
  | @emptied other previous truncates present =>
      obtain rfl : other = number := Node.file.inj node
      have bound := (List.getElem?_eq_some_iff.mp present).1
      refine ⟨⟨rfl, rfl, { previous with content := [] }, by simp [setFile, bound], .inr rfl⟩, ?_⟩
      simp [content, fileOf?, OpenFile.ofMode, setFile, bound, truncates]
  | @kept other empty =>
      obtain rfl : other = .file number := node
      -- A file that is there loses its content unless it is appended to.
      have mode : mode = .append := by
        cases mode with
        | append => rfl
        | update => exact absurd rfl output
        | truncate => cases (empty rfl).symm.trans found
      subst mode
      exact ⟨⟨rfl, rfl, stored, found, .inl rfl⟩, rfl⟩

theorem descriptors_eq (opened : Opened files viewer mode after file) :
    after.descriptors = files.descriptors := by
  cases opened with
  | created | emptied | kept => rfl

end FileSystem.Opened

end PipeShell.System
