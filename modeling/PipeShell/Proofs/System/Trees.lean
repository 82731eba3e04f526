import Mathlib
import PipeShell.Proofs.System.Ways

/-! # Trees

In a tree every directory lies in a directory, down to the root, and the names on the way to
it are neither links nor `.` or `..`. The path that is written from these names leads straight
back to it, so a directory that was found once is found again by the canonical path. -/

set_option autoImplicit false

namespace PipeShell.System

/-- The text can name an entry of a directory. -/
structure IsName (name : String) : Prop where
  nonempty : name ≠ ""
  here : name ≠ "."
  up : name ≠ ".."
  single : '/' ∉ name.toList

instance (name : String) : Decidable (IsName name) :=
  decidable_of_iff (name ≠ "" ∧ name ≠ "." ∧ name ≠ ".." ∧ '/' ∉ name.toList)
    ⟨fun ⟨nonempty, here, up, single⟩ => ⟨nonempty, here, up, single⟩,
      fun ⟨nonempty, here, up, single⟩ => ⟨nonempty, here, up, single⟩⟩

/-! ## The path of a location -/

namespace Location

theorem isAbsolute_path (location : Location) : Path.isAbsolute location.path = true := by
  simp [path, Path.isAbsolute]

theorem expandTilde_path (home : Option String) (location : Location) :
    Path.expandTilde home location.path = location.path := by
  have slash : location.path.toList = '/' :: (String.intercalate "/" location).toList := by simp [path]
  unfold Path.expandTilde
  split
  · next tilde =>
      cases slash.symm.trans tilde
  · rfl

variable {location : Location}

private theorem pieces_path (named : ∀ name ∈ location, IsName name) (nonempty : location ≠ []) :
    Path.pieces location.path = "" :: location := by
  have text : location.path.toList = ['/'].intercalate ([] :: location.map String.toList) := by
    rw [path, String.toList_append, String.toList_intercalate]
    cases location with
    | nil => exact absurd rfl nonempty
    | cons => rfl
  have separate : ∀ piece ∈ [] :: location.map String.toList, '/' ∉ piece := by
    refine List.forall_mem_cons.mpr ⟨List.not_mem_nil, ?_⟩
    simpa using fun name member => (named name member).single
  rw [Path.pieces, text, List.splitOn_intercalate '/' separate (List.cons_ne_nil _ _)]
  simp

private theorem endsWithSlash_path (named : ∀ name ∈ location, IsName name) (nonempty : location ≠ []) :
    Path.endsWithSlash location.path = false := by
  obtain ⟨front, name, rfl⟩ : ∃ front name, location = front ++ [name] :=
    ⟨_, _, (List.dropLast_concat_getLast nonempty).symm⟩
  have last := named name (by simp)
  obtain ⟨before, text⟩ : ∃ before, (Location.path (front ++ [name])).toList = before ++ name.toList := by
    cases front with
    | nil => exact ⟨['/'], by simp [path]⟩
    | cons first front =>
        rw [path, String.intercalate_append_of_ne_nil (List.cons_ne_nil _ _) (List.cons_ne_nil _ _)]
        exact ⟨("/" ++ String.intercalate "/" (first :: front) ++ "/").toList, by simp⟩
  have full : name.toList ≠ [] := by simpa using last.nonempty
  rw [Path.endsWithSlash, text, List.getLast?_append, List.getLast?_eq_some_getLast full, Option.some_or]
  refine eq_false_of_ne_true fun slash => last.single ?_
  have same : name.toList.getLast full = '/' := by simpa using slash
  exact same ▸ List.getLast_mem full

/-- The path of a location names just what leads to it. -/
theorem names_path (named : ∀ name ∈ location, IsName name) : Path.names location.path = location := by
  by_cases empty : location = []
  · subst empty
    cbv
  · have kept : ("" :: location).filter (· != "") = location := by
      rw [List.filter_cons_of_neg (by simp)]
      exact List.filter_eq_self.mpr fun name member => by simpa using (named name member).nonempty
    simp only [Path.names, pieces_path named empty, kept, endsWithSlash_path named empty, Bool.false_and]
    rfl

end Location

theorem Path.single_of_mem_names {path name : String} (member : name ∈ names path) : '/' ∉ name.toList := by
  have piece {text : String} (among : text ∈ (pieces path).filter (· != "")) : '/' ∉ text.toList := by
    obtain ⟨letters, cut, rfl⟩ := List.mem_map.mp (List.mem_filter.mp among).1
    simpa using not_mem_of_mem_splitOn cut
  unfold names at member
  dsimp only at member
  split at member
  · rcases List.mem_append.mp member with among | closing
    · exact piece among
    · obtain rfl := List.mem_singleton.mp closing
      simp
  · exact piece member

/-! ## Straight ways -/

namespace FileSystem

/-- Every entry has a name and lies in a directory. A directory lies in a single place, so none
of them is below the directory of the descriptors, which only shows what lies elsewhere. -/
structure Tree (files : FileSystem) : Prop where
  root : files.IsDirectory []
  parents : ∀ place node, files.get? place = some node → files.IsDirectory place.dropLast
  named : ∀ place node, files.get? place = some node → ∀ name ∈ place, IsName name
  unmounted : ∀ name, ¬files.IsDirectory (descriptorDirectory ++ [name])
  shown : ∀ entry ∈ files.descriptors, entry.2.isDirectory = false

/-- Whether files are a tree can be told from the list of their entries. -/
theorem Tree.of_entries {files : FileSystem} (root : files.IsDirectory [])
    (placed : ∀ entry ∈ files.entries, files.IsDirectory entry.1.dropLast ∧ (∀ name ∈ entry.1, IsName name) ∧
      entry.1.dropLast ≠ descriptorDirectory)
    (shown : ∀ entry ∈ files.descriptors, entry.2.isDirectory = false) : files.Tree where
  root := root
  parents _ _ found := (placed _ (mem_entries_of_get? found)).1
  named _ _ found := (placed _ (mem_entries_of_get? found)).2.1
  unmounted name := by
    rintro ⟨attributes, found⟩
    exact (placed _ (mem_entries_of_get? found)).2.2 List.dropLast_concat
  shown := shown

/-- A location is looked up from the root, name by name. -/
theorem walk_of_stat_path {files : FileSystem} {viewer : Viewer} {location place : Location} {node : Node}
    (named : ∀ name ∈ location, IsName name) (found : files.stat viewer location.path = .ok (place, node)) :
    files.walk viewer.user .follow linkLimit [] location = .ok ⟨place, some node⟩ := by
  have walked := walk_of_follow (stat_eq_ok_iff.mp found).2
  rwa [Path.origin, location.isAbsolute_path, if_pos rfl, Location.names_path named] at walked

namespace Tree

variable {files : FileSystem} {viewer : Viewer} {user : User} {links : Nat} {here location : Location} {found : Found}

theorem isDirectory_of_append (tree : files.Tree) {place rest : Location} (there : files.IsDirectory (place ++ rest)) :
    files.IsDirectory place := by
  induction rest using List.reverseRecOn with
  | nil => simpa using there
  | append_singleton rest name ih =>
      obtain ⟨attributes, present⟩ := there
      refine ih ?_
      simpa [← List.append_assoc] using tree.parents _ _ present

theorem isName (tree : files.Tree) (there : files.IsDirectory location) {name : String} (member : name ∈ location) :
    IsName name := by
  obtain ⟨attributes, present⟩ := there
  exact tree.named _ _ present _ member

private theorem find?_of_directory (tree : files.Tree) {follows : Bool} {name : String} {attributes : Attributes}
    (present : files.get? (here ++ [name]) = some (.directory attributes)) :
    files.find? follows here name = some (.directory attributes) := by
  unfold find?
  split
  · next inside =>
      obtain rfl := eq_of_beq inside
      exact absurd ⟨attributes, present⟩ (tree.unmounted name)
  · exact present

private theorem get?_of_find? (tree : files.Tree) {follows : Bool} {name : String} {attributes : Attributes}
    (present : files.find? follows here name = some (.directory attributes)) :
    files.get? (here ++ [name]) = some (.directory attributes) := by
  unfold find? at present
  split at present
  · exfalso
    unfold descriptor? at present
    obtain ⟨entry, chosen, shown⟩ := Option.map_eq_some_iff.mp present
    have plain := tree.shown entry (List.mem_of_find?_eq_some chosen)
    dsimp only at shown
    split at shown
    · cases shown
    · split at shown
      · rw [shown] at plain
        cases plain
      · cases shown
  · exact present

/-- A way that begins with the names of directories goes on where they lead. -/
theorem walk_straight (tree : files.Tree) {straight rest : List String} (there : files.IsDirectory (here ++ straight))
    (walked : files.walk user .follow links here (straight ++ rest) = .ok found) :
    files.walk user .follow links (here ++ straight) rest = .ok found := by
  induction straight generalizing here with
  | nil => simpa using walked
  | cons name straight ih =>
      have split : here ++ name :: straight = (here ++ [name]) ++ straight := by simp
      rw [split] at there ⊢
      refine ih there ?_
      obtain ⟨attributes, present⟩ := tree.isDirectory_of_append there
      have isName := tree.isName ⟨attributes, present⟩ (List.mem_append_right _ (List.mem_singleton_self name))
      rw [List.cons_append, walk] at walked
      simp only [tree.find?_of_directory present, isName.nonempty, isName.here, isName.up, decide_false, Bool.or_self,
        Bool.false_eq_true, if_false, reduceCtorEq, Bool.false_and] at walked
      split at walked
      · cases walked
      · split at walked
        · cases walked
        · exact walked

theorem walk_from_root (tree : files.Tree) {rest : List String} (there : files.IsDirectory location)
    (walked : files.walk user .follow links [] (location ++ rest) = .ok found) :
    files.walk user .follow links location rest = .ok found :=
  tree.walk_straight (show files.IsDirectory ([] ++ location) from there) walked

/-- Under a name in a directory there is something that is neither a directory nor a link. -/
structure Leaf (files : FileSystem) (place : Location) (name : String) (node : Node) : Prop where
  lies : files.IsDirectory place
  isName : IsName name
  entered : files.find? true place name = some node
  noDirectory : node.isDirectory = false
  noLink : ∀ target, node ≠ .link target

/-- Where a way ends at something: at a directory, or at something else in a directory. -/
theorem ends_of_walk (tree : files.Tree) {names : List String} {node : Node}
    (walked : files.walk user .follow links here names = .ok found) (start : files.IsDirectory here)
    (single : ∀ name ∈ names, '/' ∉ name.toList) (present : found.node = some node) :
    files.IsDirectory found.location ∨ ∃ place name, found.location = place ++ [name] ∧ Leaf files place name node := by
  -- A way goes on from directories only, so it stops at the first thing that is none.
  have later {name : String} {rest : List String} (single : ∀ other ∈ name :: rest, '/' ∉ other.toList) :
      ∀ other ∈ rest, '/' ∉ other.toList := fun other member => single other (List.mem_cons_of_mem _ member)
  fun_induction walk files user .follow links here names with
  | case1 =>
      cases walked
      exact .inl start
  | case3 _ _ _ _ _ _ ih => exact ih walked start (later single)
  | case4 _ _ _ _ _ ih =>
      obtain ⟨_, here⟩ := start
      exact ih walked (tree.parents _ _ here) (later single)
  | case9 _ _ _ _ _ _ _ _ _ _ _ kept => simp at kept
  | case12 here name rest _ _ _ _ _ target _ _ _ _ ih =>
      refine ih walked ?_ fun other member => ?_
      · unfold Path.origin
        split
        · exact tree.root
        · exact start
      · rcases List.mem_append.mp member with inTarget | inRest
        · exact Path.single_of_mem_names inTarget
        · exact later single other inRest
  | case13 _ here name rest _ _ _ _ _ attributes entered ih =>
      exact ih walked ⟨attributes, tree.get?_of_find? entered⟩ (later single)
  | case14 _ here name rest _ named down _ _ other noLink noDirectory entered _ =>
      cases walked
      obtain rfl := Option.some.inj present
      have isName : IsName name := by
        obtain ⟨nonempty, noDot⟩ : name ≠ "" ∧ name ≠ "." := by simpa using named
        exact ⟨nonempty, noDot, down, single name List.mem_cons_self⟩
      have follows : (!rest.isEmpty || LastName.follow != .keep) = true := Bool.or_true _
      rw [follows] at entered
      refine .inr ⟨here, name, rfl, start, isName, entered, ?_, noLink⟩
      cases other with
      | directory attributes => exact absurd rfl (noDirectory attributes)
      | file | link | device | program | pipe => rfl
  | case7 =>
      cases walked
      cases present
  | case2 | case5 | case6 | case8 | case10 | case11 | case15 => cases walked

private theorem Leaf.node_of_walk {place : Location} {name : String} {node : Node} (leaf : Leaf files place name node)
    (walked : files.walk user .follow links place [name] = .ok found) : found.node = some node := by
  have follows : (!([] : List String).isEmpty || LastName.follow != .keep) = true := rfl
  rw [walk] at walked
  simp only [leaf.isName.nonempty, leaf.isName.here, leaf.isName.up, follows, leaf.entered, decide_false, Bool.or_self,
    Bool.false_eq_true, if_false, reduceCtorEq, Bool.false_and] at walked
  split at walked
  · cases walked
  · split at walked
    · cases walked
    · cases node with
      | directory => cases leaf.noDirectory
      | link target => exact absurd rfl (leaf.noLink target)
      | file | device | program | pipe =>
          cases walked
          rfl

private theorem isDirectory_origin (tree : files.Tree) {path : String} (nonempty : path.isEmpty = false)
    (walked : files.walk user .follow links (Path.origin here path) (Path.names path) = .ok found) :
    files.IsDirectory (Path.origin here path) := by
  cases names : Path.names path with
  | nil =>
      rw [Path.origin, Path.isAbsolute_of_names names nonempty]
      exact tree.root
  | cons name rest =>
      rw [names, walk] at walked
      split at walked
      · cases walked
      · next searched => exact isDirectory_of_search searched

/-- Where a path canonically leads, there is a directory if the canonical path leads to one. -/
theorem isDirectory_of_canonical (tree : files.Tree) {path : String} (canonical : files.canonical viewer path = .ok location)
    (directory : files.isDirectory viewer location.path = true) : files.IsDirectory location := by
  obtain ⟨_, nonempty, node, followed⟩ := canonical_eq_ok_iff.mp canonical
  have walked := walk_of_follow followed
  have start := tree.isDirectory_origin nonempty walked
  rcases tree.ends_of_walk walked start (fun _ => Path.single_of_mem_names) rfl with there | ⟨place, name, rfl, leaf⟩
  · exact there
  · -- The canonical path leads to the very thing that the path has led to, which is none.
    exfalso
    have named : ∀ other ∈ place ++ [name], IsName other := by
      intro other member
      rcases List.mem_append.mp member with above | last
      · exact tree.isName leaf.lies above
      · exact List.mem_singleton.mp last ▸ leaf.isName
    obtain ⟨reached, target, found, isDirectory⟩ := isDirectory_iff.mp directory
    have again := tree.walk_from_root leaf.lies (walk_of_stat_path named found)
    obtain rfl := Option.some.inj (leaf.node_of_walk again)
    cases leaf.noDirectory.symm.trans isDirectory

/-- The canonical path of a directory leads back to it. -/
theorem canonical_path (tree : files.Tree) (there : files.IsDirectory location)
    (directory : files.isDirectory viewer location.path = true) :
    files.canonical viewer location.path = .ok location := by
  obtain ⟨place, node, found, _⟩ := isDirectory_iff.mp directory
  have walked := walk_of_stat_path (fun _ => tree.isName there) found
  rw [← List.append_nil location] at walked
  have arrived := tree.walk_from_root there walked
  rw [walk] at arrived
  obtain rfl : location = place := congrArg Found.location (Except.ok.inj arrived)
  exact canonical_of_stat found

end Tree

end FileSystem

end PipeShell.System
