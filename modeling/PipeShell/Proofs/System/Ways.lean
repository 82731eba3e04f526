import PipeShell.Proofs.System.Opening

/-! # Ways through a file system

A path is followed step by step. The steps are described as an inductive relation, so what
is true of looking up paths is proved by going along the way: a way stays the same when
files are added, and when names are left out that name nothing. -/

set_option autoImplicit false

namespace PipeShell.System

namespace FileSystem

def IsDirectory (files : FileSystem) (place : Location) : Prop :=
  ∃ attributes, files.get? place = some (.directory attributes)

instance (files : FileSystem) (place : Location) : Decidable (files.IsDirectory place) :=
  decidable_of_iff ((files.get? place).any Node.isDirectory = true) <| by
    unfold IsDirectory
    cases files.get? place with
    | none => simp
    | some node => cases node <;> simp [Node.isDirectory]

theorem mem_entries_of_get? {files : FileSystem} {place : Location} {node : Node} (found : files.get? place = some node) :
    (place, node) ∈ files.entries := by
  obtain ⟨before, after, split, _⟩ := List.lookup_eq_some_iff.mp found
  exact split ▸ List.mem_append_right before List.mem_cons_self

/-- A tree of files, directories and links: every file is stored, and no directory shows the
descriptors of a process. -/
structure Plain (files : FileSystem) : Prop where
  kinds : ∀ place node, files.get? place = some node →
    (∃ number, node = .file number ∧ number < files.stored.length) ∨ (∃ attributes, node = .directory attributes) ∨
      ∃ target, node = .link target
  root : files.IsDirectory []
  parents : ∀ place node, files.get? place = some node → files.IsDirectory place.dropLast
  unmounted : ¬files.IsDirectory descriptorDirectory

/-- Whether a node is one of such a tree. -/
def isPlain (files : FileSystem) : Node → Bool
  | .file number => number < files.stored.length
  | .directory _ => true
  | .link _ => true
  | _ => false

/-- Whether files are of this kind can be told from the list of their entries. -/
theorem Plain.of_entries {files : FileSystem} (root : files.IsDirectory [])
    (placed : ∀ entry ∈ files.entries, files.isPlain entry.2 = true ∧ files.IsDirectory entry.1.dropLast ∧
      entry.1 ≠ descriptorDirectory) : files.Plain where
  kinds := by
    intro place node found
    have kind := (placed _ (mem_entries_of_get? found)).1
    cases node with
    | file number => exact .inl ⟨number, rfl, of_decide_eq_true kind⟩
    | directory attributes => exact .inr (.inl ⟨attributes, rfl⟩)
    | link target => exact .inr (.inr ⟨target, rfl⟩)
    | device | program | pipe => cases kind
  root := root
  parents := fun _ _ found => (placed _ (mem_entries_of_get? found)).2.1
  unmounted := by
    rintro ⟨_, found⟩
    exact (placed _ (mem_entries_of_get? found)).2.2 rfl

/-- The name is looked up in a directory. -/
structure Proper (name : String) : Prop where
  named : name ≠ "" ∧ name ≠ "."
  down : name ≠ ".."
  short : name.utf8ByteSize ≤ nameLimit

/-- How a way leads from a location by names to a place. At most so many links are on it.
The last name may be missing. -/
inductive Way (files : FileSystem) (user : User) : Nat → Location → List String → Location → Prop where
  | arrived {links : Nat} {here : Location} : Way files user links here [] here
  | stay {links : Nat} {here place : Location} {name : String} {rest : List String} :
      files.search user here name = .ok () → name = "" ∨ name = "." → Way files user links here rest place →
      Way files user links here (name :: rest) place
  | up {links : Nat} {here place : Location} {rest : List String} :
      files.search user here ".." = .ok () → Way files user links here.dropLast rest place →
      Way files user links here (".." :: rest) place
  | enter {links : Nat} {here place : Location} {name : String} {rest : List String} {attributes : Attributes} :
      files.search user here name = .ok () → Proper name → files.get? (here ++ [name]) = some (.directory attributes) →
      Way files user links (here ++ [name]) rest place → Way files user links here (name :: rest) place
  | turn {links : Nat} {here place : Location} {name target : String} {rest : List String} :
      files.search user here name = .ok () → Proper name → files.get? (here ++ [name]) = some (.link target) →
      target.isEmpty = false → Way files user links (Path.origin here target) (Path.names target ++ rest) place →
      Way files user (links + 1) here (name :: rest) place
  | ends {links : Nat} {here : Location} {name : String} :
      files.search user here name = .ok () → Proper name →
      (∀ target, files.get? (here ++ [name]) ≠ some (.link target)) →
      (∀ attributes, files.get? (here ++ [name]) ≠ some (.directory attributes)) →
      Way files user links here [name] (here ++ [name])

/-! ## Ways are what is walked -/

section

variable {files : FileSystem} {user : User} {links : Nat} {here : Location} {names : List String}

theorem isDirectory_of_search {name : String} (searched : files.search user here name = .ok ()) :
    files.IsDirectory here := by
  unfold search at searched
  split at searched
  · next attributes found => exact ⟨attributes, found⟩
  · cases searched
  · cases searched

theorem Plain.find?_eq (plain : files.Plain) {name : String} (searched : files.search user here name = .ok ())
    (follows : Bool) : files.find? follows here name = files.get? (here ++ [name]) := by
  have outside : (here == descriptorDirectory) = false := by
    refine eq_false_of_ne_true fun inside => ?_
    obtain rfl := eq_of_beq inside
    exact plain.unmounted (isDirectory_of_search searched)
  rw [find?, outside]
  rfl

theorem Plain.way_of_walk (plain : files.Plain) {last : LastName} {found : Found} (follows : last ≠ .keep)
    (walked : files.walk user last links here names = .ok found) :
    files.Way user links here names found.location ∧ found.node = files.get? found.location := by
  have proper {name : String} (named : ¬(decide (name = "") || decide (name = ".")) = true) (down : ¬name = "..")
      (short : ¬nameLimit < name.utf8ByteSize) : Proper name :=
    ⟨by simpa using named, down, Nat.not_lt.mp short⟩
  fun_induction walk files user last links here names with
  | case1 =>
      cases walked
      exact ⟨.arrived, rfl⟩
  | case3 _ _ _ _ searched idle ih =>
      obtain ⟨way, node⟩ := ih walked
      exact ⟨.stay searched (by simpa using idle) way, node⟩
  | case4 _ _ _ searched _ ih =>
      obtain ⟨way, node⟩ := ih walked
      exact ⟨.up searched way, node⟩
  | case7 _ here name rest searched named down _ short absent empty =>
      cases walked
      rw [plain.find?_eq searched] at absent
      obtain rfl := List.isEmpty_iff.mp empty
      refine ⟨.ends searched (proper named down short) ?_ ?_, absent.symm⟩
      · rw [absent]
        exact fun _ present => by cases present
      · rw [absent]
        exact fun _ present => by cases present
  | case9 _ _ _ _ _ _ _ _ _ _ _ kept =>
      simp [follows] at kept
  | case12 here name rest searched named down _ short target present _ links nonempty ih =>
      obtain ⟨way, node⟩ := ih walked
      rw [plain.find?_eq searched] at present
      exact ⟨.turn searched (proper named down short) present (eq_false_of_ne_true nonempty) way, node⟩
  | case13 links here name rest searched named down _ short attributes present ih =>
      obtain ⟨way, node⟩ := ih walked
      rw [plain.find?_eq searched] at present
      exact ⟨.enter searched (proper named down short) present way, node⟩
  | case14 links here name rest searched named down _ short node noLink noDirectory present empty =>
      cases walked
      rw [plain.find?_eq searched] at present
      obtain rfl := List.isEmpty_iff.mp empty
      refine ⟨.ends searched (proper named down short) ?_ ?_, present.symm⟩
      · intro target same
        exact noLink target (Option.some.inj (present.symm.trans same))
      · intro attributes same
        exact noDirectory attributes (Option.some.inj (present.symm.trans same))
  | case2 | case5 | case6 | case8 | case10 | case11 | case15 => cases walked

theorem Plain.walk_of_way (plain : files.Plain) {place : Location} (way : files.Way user links here names place) :
    files.walk user .follow links here names = .ok ⟨place, files.get? place⟩ := by
  have named {name : String} (proper : Proper name) : (decide (name = "") || decide (name = ".")) = false := by
    simpa using proper.named
  induction way with
  | arrived => rw [walk]
  | stay searched idle _ ih =>
      rw [walk, searched]
      simpa [idle] using ih
  | up searched _ ih =>
      rw [walk, searched]
      simpa using ih
  | enter searched proper present _ ih =>
      rw [walk, searched]
      simpa [named proper, proper.down, Nat.not_lt.mpr proper.short, plain.find?_eq searched, present] using ih
  | turn searched proper present nonempty _ ih =>
      rw [walk, searched]
      simpa [named proper, proper.down, Nat.not_lt.mpr proper.short, plain.find?_eq searched, present, nonempty] using ih
  | @ends _ here name searched proper noLink noDirectory =>
      rw [walk, searched]
      simp only [named proper, proper.down, Nat.not_lt.mpr proper.short, plain.find?_eq searched]
      cases present : files.get? (here ++ [name]) with
      | none => simp
      | some node =>
          cases node with
          | link target => exact absurd present (noLink target)
          | directory attributes => exact absurd present (noDirectory attributes)
          | file | device | program | pipe => simp

private theorem Plain.way_unique (plain : files.Plain) {place other : Location}
    (way : files.Way user links here names place) (otherWay : files.Way user links here names other) :
    place = other := by
  have walked := plain.walk_of_way way
  cases walked.symm.trans (plain.walk_of_way otherWay)
  rfl

end

/-- A way from a directory does not end at a link. -/
theorem Plain.ne_link_of_way {files : FileSystem} (plain : files.Plain) {user : User} {links : Nat} {here place : Location}
    {names : List String} (way : files.Way user links here names place) (start : files.IsDirectory here)
    (target : String) : files.get? place ≠ some (.link target) := by
  induction way with
  | arrived =>
      obtain ⟨attributes, found⟩ := start
      rw [found]
      exact fun same => by cases same
  | stay _ _ _ ih => exact ih start
  | up _ _ ih =>
      obtain ⟨_, found⟩ := start
      exact ih (plain.parents _ _ found)
  | enter _ _ present _ ih => exact ih ⟨_, present⟩
  | turn _ _ _ _ _ ih =>
      refine ih ?_
      unfold Path.origin
      split
      · exact plain.root
      · exact start
  | ends _ _ noLink _ => exact noLink target

/-! ## More files -/

/-- Directories and links are at the same places. -/
def Alike (files other : FileSystem) : Prop :=
  ∀ place node, (∀ number, node ≠ .file number) → (files.get? place = some node ↔ other.get? place = some node)

namespace Alike

variable {files other : FileSystem} {user : User} {links : Nat} {here place : Location} {names : List String}

theorem symm (alike : Alike files other) : Alike other files := fun place node noFile => (alike place node noFile).symm

theorem directory_iff (alike : Alike files other) (attributes : Attributes) :
    files.get? place = some (.directory attributes) ↔ other.get? place = some (.directory attributes) :=
  alike place _ fun _ same => by cases same

private theorem link_iff (alike : Alike files other) (target : String) :
    files.get? place = some (.link target) ↔ other.get? place = some (.link target) :=
  alike place _ fun _ same => by cases same

private theorem search (alike : Alike files other) {name : String} (searched : files.search user here name = .ok ()) :
    other.search user here name = .ok () := by
  unfold FileSystem.search at searched ⊢
  split at searched
  · next found =>
      rw [(alike.directory_iff _).mp found]
      exact searched
  · cases searched
  · cases searched

/-- Ways lead to the same places, whatever files there are. -/
theorem way (alike : Alike files other) (way : files.Way user links here names place) :
    other.Way user links here names place := by
  induction way with
  | arrived => exact .arrived
  | stay searched idle _ ih => exact .stay (alike.search searched) idle ih
  | up searched _ ih => exact .up (alike.search searched) ih
  | enter searched proper present _ ih =>
      exact .enter (alike.search searched) proper ((alike.directory_iff _).mp present) ih
  | turn searched proper present nonempty _ ih =>
      exact .turn (alike.search searched) proper ((alike.link_iff _).mp present) nonempty ih
  | ends searched proper noLink noDirectory =>
      refine .ends (alike.search searched) proper ?_ ?_
      · exact fun target present => noLink target ((alike.link_iff target).mpr present)
      · exact fun attributes present => noDirectory attributes ((alike.directory_iff attributes).mpr present)

end Alike

/-- Everything is still there, and where nothing was there may be a new file. -/
structure Grows (files later : FileSystem) : Prop where
  places : ∀ place, later.get? place = files.get? place ∨
    files.get? place = none ∧ ∃ number, files.stored.length ≤ number ∧ later.get? place = some (.file number)
  length : files.stored.length ≤ later.stored.length

namespace Grows

variable {files left later : FileSystem}

theorem refl (files : FileSystem) : Grows files files := ⟨fun _ => .inl rfl, Nat.le_refl _⟩

theorem trans (grows : Grows files left) (more : Grows left later) : Grows files later where
  places := by
    intro place
    rcases more.places place with same | ⟨missing, number, beyond, found⟩
    · rcases grows.places place with before | ⟨missing, number, beyond, found⟩
      · exact .inl (same.trans before)
      · exact .inr ⟨missing, number, beyond, same.trans found⟩
    · rcases grows.places place with before | ⟨_, _, _, present⟩
      · exact .inr ⟨before ▸ missing, number, Nat.le_trans grows.length beyond, found⟩
      · cases missing.symm.trans present
  length := Nat.le_trans grows.length more.length

theorem get? (grows : Grows files later) {place : Location} {node : Node} (found : files.get? place = some node) :
    later.get? place = some node := by
  rcases grows.places place with same | ⟨missing, _⟩
  · exact same.trans found
  · cases missing.symm.trans found

/-- What is there and is no new file was there before. -/
theorem get?_before (grows : Grows files later) {place : Location} {node : Node} (found : later.get? place = some node)
    (old : ∀ number, node = .file number → number < files.stored.length) : files.get? place = some node := by
  rcases grows.places place with same | ⟨_, number, beyond, present⟩
  · exact same.symm.trans found
  · cases present.symm.trans found
    exact absurd (old number rfl) (Nat.not_lt.mpr beyond)

theorem alike (grows : Grows files later) : Alike files later := fun _ _ noFile =>
  ⟨grows.get?, fun found => grows.get?_before found fun number same => absurd same (noFile number)⟩

end Grows

/-! ## Fewer names -/

/-- Some names that name nothing are left out. -/
inductive Thin : List String → List String → Prop where
  | done : Thin [] []
  | keep {name : String} {names fewer : List String} : Thin names fewer → Thin (name :: names) (name :: fewer)
  | leave {name : String} {names fewer : List String} : name = "" ∨ name = "." → Thin names fewer →
      Thin (name :: names) fewer

private theorem Thin.append {names fewer : List String} (thin : Thin names fewer) (front : List String) :
    Thin (front ++ names) (front ++ fewer) := by
  induction front with
  | nil => exact thin
  | cons _ _ ih => exact .keep ih

private theorem thin_filter (names : List String) : Thin names (names.filter (!Path.isIdle ·)) := by
  induction names with
  | nil => exact .done
  | cons name names ih =>
      cases idle : Path.isIdle name with
      | true =>
          rw [List.filter_cons_of_neg (by simp [idle])]
          exact .leave (by simpa [Path.isIdle] using idle) ih
      | false =>
          rw [List.filter_cons_of_pos (by simp [idle])]
          exact .keep ih

/-- A way leads to the same place when such names are left out. -/
theorem Way.thin {files : FileSystem} {user : User} {links : Nat} {here place : Location} {names fewer : List String}
    (way : files.Way user links here names place) (thin : Thin names fewer) : files.Way user links here fewer place := by
  induction way generalizing fewer with
  | arrived =>
      cases thin
      exact .arrived
  | stay searched idle _ ih =>
      cases thin with
      | keep thin => exact .stay searched idle (ih thin)
      | leave _ thin => exact ih thin
  | up searched _ ih =>
      cases thin with
      | keep thin => exact .up searched (ih thin)
      | leave idle _ => exact absurd idle (by decide)
  | enter searched proper present _ ih =>
      cases thin with
      | keep thin => exact .enter searched proper present (ih thin)
      | leave idle _ => exact absurd idle (not_or.mpr proper.named)
  | turn searched proper present nonempty _ ih =>
      cases thin with
      | keep thin => exact .turn searched proper present nonempty (ih (thin.append _))
      | leave idle _ => exact absurd idle (not_or.mpr proper.named)
  | ends searched proper noLink noDirectory =>
      cases thin with
      | keep thin =>
          cases thin
          exact .ends searched proper noLink noDirectory
      | leave idle _ => exact absurd idle (not_or.mpr proper.named)

end FileSystem

/-! ## Different spellings of a path

Paths that are the same as texts, up to slashes and `.` pieces that change nothing, lead to
the same place as long as both lead anywhere. -/

namespace Path

theorem not_mem_of_mem_splitOn {separator : Char} {text piece : List Char} (member : piece ∈ text.splitOn separator) :
    separator ∉ piece := by
  induction text generalizing piece with
  | nil =>
      obtain rfl := List.mem_singleton.mp member
      exact List.not_mem_nil
  | cons first text ih =>
      rw [List.splitOn_cons_eq_if_modifyHead] at member
      split at member
      · rcases List.mem_cons.mp member with rfl | later
        · exact List.not_mem_nil
        · exact ih later
      · next other =>
          cases pieces : text.splitOn separator with
          | nil => exact absurd pieces (List.splitOn_ne_nil _ _)
          | cons head rest =>
              rw [pieces] at member ih
              rcases List.mem_cons.mp member with rfl | later
              · have fresh := ih List.mem_cons_self
                intro inside
                rcases List.mem_cons.mp inside with same | deeper
                · exact other (beq_iff_eq.mpr same.symm)
                · exact fresh deeper
              · exact ih (List.mem_cons_of_mem _ later)

theorem ne_slash_of_mem_pieces {path piece : String} (member : piece ∈ pieces path) : piece ≠ "/" := by
  obtain ⟨text, among, rfl⟩ := List.mem_map.mp member
  intro same
  have text_eq : text = ['/'] := by simpa using congrArg String.toList same
  exact not_mem_of_mem_splitOn among (text_eq ▸ List.mem_singleton_self _)

private theorem head?_pieces_of_isAbsolute {path : String} (absolute : isAbsolute path = true) :
    (pieces path).head? = some "" := by
  unfold isAbsolute at absolute
  unfold pieces
  cases text : path.toList with
  | nil =>
      rw [text] at absolute
      cases absolute
  | cons first rest =>
      rw [text] at absolute
      obtain rfl : first = '/' := by simpa using absolute
      simp [List.splitOn_cons_eq_if_modifyHead]

/-- A path that names nothing is absolute, unless it is empty. -/
theorem isAbsolute_of_names {path : String} (nothing : names path = []) (nonempty : path.isEmpty = false) :
    isAbsolute path = true := by
  have empty : (pieces path).filter (· != "") = [] := by
    unfold names at nothing
    dsimp only at nothing
    split at nothing
    · simp at nothing
    · exact nothing
  unfold pieces at empty
  unfold isAbsolute
  cases text : path.toList with
  | nil =>
      obtain rfl := String.toList_eq_nil_iff.mp text
      cases nonempty
  | cons first rest =>
      rw [text, List.splitOn_cons_eq_if_modifyHead] at empty
      split at empty
      · next slash => simpa using slash
      · cases pieces : rest.splitOn '/' with
        | nil => exact absurd pieces (List.splitOn_ne_nil _ _)
        | cons head tail =>
            rw [pieces] at empty
            simp at empty

/-- The components are the pieces that name something, with a mark of where they start. -/
theorem components_eq (path : String) : ∃ mark, components path = mark ++ (pieces path).filter (!isIdle ·) ∧
    (mark = ["/"] ∧ isAbsolute path = true ∨ (mark = [] ∨ mark = ["."]) ∧ isAbsolute path = false) := by
  unfold components
  cases split : pieces path with
  | nil =>
      cases absolute : isAbsolute path with
      | true => cases split ▸ head?_pieces_of_isAbsolute absolute
      | false => exact ⟨[], rfl, .inr ⟨.inl rfl, rfl⟩⟩
  | cons first rest =>
      by_cases empty : first = ""
      · subst empty
        cases absolute : isAbsolute path with
        | true => exact ⟨["/"], by simp [isIdle], .inl ⟨rfl, rfl⟩⟩
        | false => exact ⟨[], by simp [isIdle], .inr ⟨.inl rfl, rfl⟩⟩
      · have relative : isAbsolute path = false := by
          refine eq_false_of_ne_true fun absolute => empty ?_
          simpa [split] using head?_pieces_of_isAbsolute absolute
        by_cases dot : first = "."
        · subst dot
          exact ⟨["."], by simp [isIdle], .inr ⟨.inr rfl, relative⟩⟩
        · exact ⟨[], by simp [isIdle, empty, dot], .inr ⟨.inl rfl, relative⟩⟩

private theorem slash_mem_components (path : String) : "/" ∈ components path ↔ isAbsolute path = true := by
  have inner : "/" ∉ (pieces path).filter (!isIdle ·) := fun member =>
    ne_slash_of_mem_pieces (List.mem_filter.mp member).1 rfl
  obtain ⟨mark, whole, ⟨rfl, absolute⟩ | ⟨rfl | rfl, relative⟩⟩ := components_eq path
  · simp [whole, absolute]
  · rw [whole, relative]
    simpa using inner
  · rw [whole, relative]
    simpa using inner

private theorem filter_components (path : String) :
    (components path).filter (fun component => component != "/" && component != ".") =
      (pieces path).filter (!isIdle ·) := by
  have named : ((pieces path).filter (!isIdle ·)).filter (fun component => component != "/" && component != ".") =
      (pieces path).filter (!isIdle ·) := by
    refine List.filter_eq_self.mpr fun piece member => ?_
    obtain ⟨among, busy⟩ := List.mem_filter.mp member
    have noSlash := ne_slash_of_mem_pieces among
    have noDot : piece ≠ "." := by
      rintro rfl
      cases busy
    simp [noSlash, noDot]
  obtain ⟨mark, whole, ⟨rfl, _⟩ | ⟨rfl | rfl, _⟩⟩ := components_eq path
  · rw [whole, List.filter_append, named]
    rfl
  · rw [whole, List.nil_append, named]
  · rw [whole, List.filter_append, named]
    rfl

private theorem filter_names (path : String) :
    (names path).filter (!isIdle ·) = (pieces path).filter (!isIdle ·) := by
  have named : ((pieces path).filter (· != "")).filter (!isIdle ·) = (pieces path).filter (!isIdle ·) := by
    rw [List.filter_filter]
    refine List.filter_congr fun piece _ => ?_
    by_cases empty : piece = "" <;> simp [isIdle, empty]
  unfold names
  dsimp only
  split
  · rw [List.filter_append, named]
    simp [isIdle]
  · exact named

/-- Paths with the same components start at the same place and name the same things. -/
theorem names_of_same {path other : String} (same : Path.same path other = true) :
    isAbsolute path = isAbsolute other ∧ (names path).filter (!isIdle ·) = (names other).filter (!isIdle ·) := by
  have components : components path = components other := eq_of_beq same
  refine ⟨?_, ?_⟩
  · rw [Bool.eq_iff_iff, ← slash_mem_components, ← slash_mem_components, components]
  · rw [filter_names, filter_names, ← filter_components, ← filter_components, components]

end Path

namespace FileSystem

theorem Plain.ne_link {files : FileSystem} (plain : files.Plain) {user : User} {links : Nat} {here place : Location} {path : String}
    (nonempty : path.isEmpty = false) (way : files.Way user links (Path.origin here path) (Path.names path) place)
    (target : String) : files.get? place ≠ some (.link target) := by
  refine plain.ne_link_of_way way ?_ target
  cases names : Path.names path with
  | nil =>
      rw [Path.origin, Path.isAbsolute_of_names names nonempty]
      exact plain.root
  | cons =>
      rw [names] at way
      cases way with
      | stay searched | up searched | enter searched | turn searched | ends searched =>
          exact isDirectory_of_search searched

/-- Two spellings of one path lead to the same place. -/
theorem Plain.way_of_same {files : FileSystem} (plain : files.Plain) {user : User} {links : Nat} {here place otherPlace : Location}
    {path other : String} (same : Path.same path other = true)
    (way : files.Way user links (Path.origin here path) (Path.names path) place)
    (otherWay : files.Way user links (Path.origin here other) (Path.names other) otherPlace) : place = otherPlace := by
  obtain ⟨absolute, names⟩ := Path.names_of_same same
  have origin : Path.origin here path = Path.origin here other := by rw [Path.origin, absolute, Path.origin]
  have short := way.thin (thin_filter _)
  have otherShort := otherWay.thin (thin_filter _)
  rw [origin, names] at short
  exact plain.way_unique short otherShort

/-! ## What looking up finds -/

section

variable {files : FileSystem} {viewer : Viewer} {path : String} {location : Location} {node : Node}

theorem checkPath_eq_ok_iff : checkPath path = .ok () ↔
    path.toList.contains '\x00' = false ∧ path.isEmpty = false ∧ path.utf8ByteSize < pathLimit := by
  unfold checkPath
  split
  · next nul => simp only [nul, reduceCtorEq, Bool.true_eq_false, false_and]
  · next noNul =>
      split
      · next empty => simp [empty]
      · next nonempty =>
          simp only [eq_false_of_ne_true noNul, eq_false_of_ne_true nonempty, true_and]
          split
          · next long => simp [Nat.not_lt.mpr long]
          · next short => simp [Nat.lt_of_not_le short]

theorem canonical_eq_ok_iff : files.canonical viewer path = .ok location ↔
    path.toList.contains '\x00' = false ∧ path.isEmpty = false ∧
      ∃ node, files.follow viewer .follow path (Path.names path) = .ok ⟨location, some node⟩ := by
  unfold canonical
  split
  · next nul => simp only [nul, reduceCtorEq, Bool.true_eq_false, false_and]
  · next noNul =>
      split
      · next empty => simp [empty]
      · next nonempty =>
          simp only [eq_false_of_ne_true noNul, eq_false_of_ne_true nonempty, true_and]
          cases files.follow viewer .follow path (Path.names path) with
          | error => simp [bind, Except.bind]
          | ok found =>
              obtain ⟨place, present⟩ := found
              cases present <;> simp [bind, Except.bind]

theorem stat_eq_ok_iff : files.stat viewer path = .ok (location, node) ↔
    checkPath path = .ok () ∧ files.follow viewer .follow path (Path.names path) = .ok ⟨location, some node⟩ := by
  unfold stat resolve
  cases checkPath path with
  | error => simp [bind, Except.bind]
  | ok =>
      cases files.follow viewer .follow path (Path.names path) with
      | error => simp [bind, Except.bind]
      | ok found =>
          obtain ⟨place, present⟩ := found
          cases present <;> simp [bind, Except.bind]

theorem canonical_of_stat (found : files.stat viewer path = .ok (location, node)) :
    files.canonical viewer path = .ok location := by
  obtain ⟨checked, followed⟩ := stat_eq_ok_iff.mp found
  obtain ⟨noNul, nonempty, _⟩ := checkPath_eq_ok_iff.mp checked
  exact canonical_eq_ok_iff.mpr ⟨noNul, nonempty, node, followed⟩

theorem isDirectory_iff : files.isDirectory viewer path = true ↔
    ∃ location node, files.stat viewer path = .ok (location, node) ∧ node.isDirectory = true := by
  unfold isDirectory
  cases files.stat viewer path with
  | error => simp
  | ok found =>
      obtain ⟨place, target⟩ := found
      constructor
      · exact fun directory => ⟨place, target, rfl, directory⟩
      · rintro ⟨_, _, same, directory⟩
        cases same
        exact directory

end

end FileSystem

end PipeShell.System
