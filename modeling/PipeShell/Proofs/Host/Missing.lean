import PipeShell.ExecError
import PipeShell.Host

/-! # Programs that are not found

Starting a program ends with an error number, and the one for a missing file has three
sources: the directory that is entered, the file of the program, and the files that such a
file is executed by. What the system does in between is not looked into: it is a parameter,
with what its manual says about failures as laws. The machine's own way to start programs has
these laws, which is proved with one lemma for each of its functions. -/

set_option autoImplicit false

namespace PipeShell

open PipeShell.System

/-! ## Failures -/

/-- An error number, or the refusal of a text with NUL. -/
inductive Reported : Failure → Prop where
  | os (errno : Errno) : Reported (.os errno)
  | path : Reported .nulInPath
  | command : Reported .nulInCommand

/-- The failures of looking up a path that leads to nothing: a name is missing, or something on
the way is not a directory. -/
def IsAbsence (failure : Failure) : Prop := failure = .os .noEntry ∨ failure = .os .notDirectory

instance : DecidablePred IsAbsence := fun _ => inferInstanceAs (Decidable (_ ∨ _))

namespace Host

/-! ## Missing files -/

section

variable (interpreter? : FileSystem → Node → Option String) (files : FileSystem) (viewer : Viewer)

/-- The path leads to nothing. -/
def Absent (path : String) : Prop := ∃ failure, files.stat viewer path = .error failure ∧ IsAbsence failure

/-- A file that is executed by another one which is missing, or which is a file of this kind
itself. -/
inductive LacksInterpreter : Node → Prop where
  | missing {node : Node} {path : String} : interpreter? files node = some path → Absent files viewer path →
      LacksInterpreter node
  | deeper {node next : Node} {path : String} {place : Location} : interpreter? files node = some path →
      files.stat viewer path = .ok (place, next) → LacksInterpreter next → LacksInterpreter node

/-- Executing the file at the path finds something missing. -/
inductive Unstartable (path : String) : Prop where
  | absent : Absent files viewer path → Unstartable path
  | present {place : Location} {node : Node} : files.stat viewer path = .ok (place, node) →
      LacksInterpreter interpreter? files viewer node → Unstartable path

end

/-- The paths under which a program is looked up, in order. -/
def candidates (environment : Environment) (name : String) : List String :=
  if name.isEmpty then []
  else if name.toList.contains '/' then [name]
  else (searchDirectories ((environment.get? "PATH").getD standardPath)).map (candidate · name)

/-- Why a program is not found that is to be started in a directory: there is no such
directory, or everything that the name can mean there is missing. -/
inductive Missing (interpreter? : FileSystem → Node → Option String) (files : FileSystem) (user : User)
    (here : Location) (environment : Environment) (directory program : String) : Prop where
  | directory : files.stat { user, directory := here } directory = .error (.os .noEntry) →
      Missing interpreter? files user here environment directory program
  | program {place : Location} {attributes : Attributes} :
      files.stat { user, directory := here } directory = .ok (place, .directory attributes) →
      attributes.admits user = true →
      (∀ path ∈ candidates environment program, Unstartable interpreter? files { user, directory := place } path) →
      Missing interpreter? files user here environment directory program

/-! ## What systems promise -/

/-- What a system does to start a program as a process with a number. -/
structure Steps where
  /-- Enters a directory. -/
  enter : FileSystem → String → Except Failure Location
  /-- Looks for the file that a name means to a process in a place, and executes it with the name
  and other arguments. -/
  lookUp : Nat → FileSystem → Location → String → List String → Except Failure Program
  /-- Executes the file at a path with some words. -/
  execute : Nat → FileSystem → Location → String → List String → Except Failure Program
  /-- The path of the file by which another one is executed: the interpreter of a script, or the
  loader that a binary asks for. -/
  interpreter? : FileSystem → Node → Option String

/-- What is documented of the failures of these steps for a user with an environment, whose
relative paths start at a location, and of the start that is made of them. -/
structure Steps.Lawful (steps : Steps) (user : User) (here : Location) (environment : Environment)
    (start : Nat → FileSystem → Command → Except Failure Program) : Prop where
  /-- A start refuses a text with NUL, and fails with the number of a system call otherwise. -/
  reported {pid : Nat} {files : FileSystem} {command : Command} {failure : Failure} :
    start pid files command = .error failure → Reported failure
  /-- That a process cannot be made is told with other numbers than that of a missing file, so
  this one comes from the directory or, behind it, from the program (fork(2), pipe(2)). -/
  noEntry {pid : Nat} {files : FileSystem} {command : Command} : start pid files command = .error (.os .noEntry) →
    steps.enter files command.directory = .error (.os .noEntry) ∨
      ∃ place, steps.enter files command.directory = .ok place ∧
        steps.lookUp pid files place command.program command.arguments = .error (.os .noEntry)
  /-- Entering a directory says that a file is missing if the path does not lead to one (chdir(2)). -/
  lost {files : FileSystem} {directory : String} : steps.enter files directory = .error (.os .noEntry) →
    files.stat { user, directory := here } directory = .error (.os .noEntry)
  /-- Whoever has entered a directory is in it and may look names up there (chdir(2)). -/
  entered {files : FileSystem} {directory : String} {place : Location} : steps.enter files directory = .ok place →
    ∃ attributes, files.stat { user, directory := here } directory = .ok (place, .directory attributes) ∧
      attributes.admits user = true
  /-- A name with a slash is a path. Any other name is looked for in one directory after the other.
  The search goes on behind a file that is missing, and one that is forbidden is remembered; so it
  says that a file is missing only if all of them were (execvp(3)). -/
  searched {pid : Nat} {files : FileSystem} {place : Location} {program : String} {arguments : List String} :
    steps.lookUp pid files place program arguments = .error (.os .noEntry) →
    ∀ path ∈ candidates environment program, ∃ failure,
      steps.execute pid files place path (program :: arguments) = .error failure ∧ IsAbsence failure
  /-- Executing a file says that something is missing if this file does not exist, or one that it
  is executed by (execve(2)). -/
  executed {pid : Nat} {files : FileSystem} {place : Location} {path : String} {words : List String}
    {failure : Failure} : steps.execute pid files place path words = .error failure → IsAbsence failure →
    Unstartable steps.interpreter? files { user, directory := place } path

/-- A start fails with the number of a missing file only if something is missing. -/
theorem Steps.Lawful.missing {steps : Steps} {user : User} {here : Location} {environment : Environment}
    {start : Nat → FileSystem → Command → Except Failure Program} (lawful : steps.Lawful user here environment start)
    {pid : Nat} {files : FileSystem} {command : Command} (failed : start pid files command = .error (.os .noEntry)) :
    Missing steps.interpreter? files user here environment command.directory command.program := by
  rcases lawful.noEntry failed with lost | ⟨place, entered, unfound⟩
  · exact .directory (lawful.lost lost)
  · obtain ⟨attributes, found, admitted⟩ := lawful.entered entered
    refine .program found admitted fun path candidate => ?_
    obtain ⟨failure, refused, absence⟩ := lawful.searched unfound path candidate
    exact lawful.executed refused absence

/-! ## What the machine does

Its steps are the functions that a start goes through. -/

/-- The path of the file by which the machine would have to execute another one. -/
def interpreter? (files : FileSystem) (node : Node) : Option String :=
  (Interpreter.ofContent ((files.fileOf? node).elim [] File.content)).toOption.map Interpreter.path

def steps (user : User) (parent : Nat) (here : Location) (environment : Environment) : Steps where
  enter := enter user here
  lookUp := fun pid files place program arguments => begin Program.lifetime {
    name := program, arguments, environment, viewer := { user, directory := place }, pid, parent } files
  execute := fun pid files place path words => begin Program.lifetime {
    name := words.headD "", arguments := words.tail, path := some path
    environment, viewer := { user, directory := place }, pid, parent } files
  interpreter? := interpreter?

section

variable {files : FileSystem} {viewer : Viewer} {path : String} {failure : Failure}

private theorem reported_of_stat (failed : files.stat viewer path = .error failure) : Reported failure := by
  unfold FileSystem.stat FileSystem.resolve FileSystem.checkPath FileSystem.follow at failed
  split at failed
  · cases failed
    exact .path
  · split at failed
    · cases failed
      exact .os _
    · split at failed
      · cases failed
        exact .os _
      · cases walked : files.walk viewer.user .follow linkLimit (Path.origin viewer.directory path) (Path.names path) with
        | error errno =>
            rw [walked] at failed
            cases failed
            exact .os errno
        | ok found =>
            obtain ⟨place, present⟩ := found
            rw [walked] at failed
            cases present <;> cases failed
            exact .os _

private theorem execute?_error (failed : execute? files viewer path = .error failure) :
    Reported failure ∧ (IsAbsence failure → Absent files viewer path) := by
  unfold execute? at failed
  split at failed
  · next other found =>
      cases failed
      exact ⟨reported_of_stat found, fun absence => ⟨_, found, absence⟩⟩
  · split at failed
    · cases failed
    · cases failed
      exact ⟨.os _, fun absence => absurd absence (by decide)⟩

private theorem execute?_ok {node : Node} (found : execute? files viewer path = .ok node) :
    ∃ place, files.stat viewer path = .ok (place, node) := by
  unfold execute? at found
  split at found
  · cases found
  · next place _ present =>
      split at found
      · cases found
        exact ⟨place, present⟩
      · cases found

private theorem ofContent_error {content : Bytes} {errno : Errno}
    (failed : Interpreter.ofContent content = .error errno) : errno = .notExecutable ∨ errno = .inputOutput := by
  unfold Interpreter.ofContent at failed
  split at failed
  · cases failed
  · unfold Interpreter.ofBinary at failed
    split at failed
    · exact .inl (Except.error.inj failed).symm
    · dsimp only at failed
      split at failed
      · exact .inl (Except.error.inj failed).symm
      · split at failed
        · exact .inr (Except.error.inj failed).symm
        · split at failed
          · exact .inl (Except.error.inj failed).symm
          · cases failed

/-- That a file cannot be made out is told with other numbers than those of a missing one. -/
private theorem not_isAbsence_of_ofContent {content : Bytes} {errno : Errno}
    (failed : Interpreter.ofContent content = .error errno) : ¬IsAbsence (.os errno) := by
  rcases ofContent_error failed with rfl | rfl <;> decide

private theorem imageOf_error {levels : Nat} {node : Node} {words : List String}
    (failed : imageOf files viewer levels path node words = .error failure) :
    Reported failure ∧ (IsAbsence failure → LacksInterpreter interpreter? files viewer node) := by
  have asked {node : Node} {interpreter : Interpreter}
      (named : Interpreter.ofContent ((files.fileOf? node).elim [] File.content) = .ok interpreter) :
      interpreter? files node = some interpreter.path := by
    rw [interpreter?, named]
    rfl
  fun_induction imageOf files viewer levels path node words with
  | case1 => cases failed
  | case2 _ _ _ _ _ errno unknown =>
      cases failed
      exact ⟨.os _, fun absence => absurd absence (not_isAbsence_of_ofContent unknown)⟩
  | case3 _ _ _ _ _ interpreter named _ refused =>
      obtain ⟨reported, absent⟩ := execute?_error refused
      split at failed
      · cases failed
        exact ⟨.os _, fun absence => absurd absence (by decide)⟩
      · cases failed
        exact ⟨reported, fun absence => .missing (asked named) (absent absence)⟩
  | case4 | case5 =>
      cases failed
      exact ⟨.os _, fun absence => absurd absence (by decide)⟩
  | case6 _ _ _ _ interpreter named next found _ _ ih =>
      obtain ⟨reported, lacks⟩ := ih failed
      obtain ⟨place, present⟩ := execute?_ok found
      exact ⟨reported, fun absence => .deeper (asked named) present (lacks absence)⟩

private theorem load_error {environment : Environment} {words : List String}
    (failed : load files viewer environment path words = .error failure) :
    Reported failure ∧ (IsAbsence failure → Unstartable interpreter? files viewer path) := by
  unfold load at failed
  split at failed
  · next other refused =>
      cases failed
      obtain ⟨reported, absent⟩ := execute?_error refused
      exact ⟨reported, fun absence => .absent (absent absence)⟩
  · next node found =>
      split at failed
      · cases failed
        exact ⟨.os _, fun absence => absurd absence (by decide)⟩
      · obtain ⟨reported, lacks⟩ := imageOf_error failed
        obtain ⟨place, present⟩ := execute?_ok found
        exact ⟨reported, fun absence => .present present (lacks absence)⟩

end

section

variable {files : FileSystem} {call : Call} {failure : Failure}

private theorem loadFor_error (unscripted : call.scripted = false) {path : String}
    (failed : loadFor files call path = .error failure) :
    Reported failure ∧ (IsAbsence failure → Unstartable interpreter? files call.viewer path) := by
  unfold loadFor at failed
  simp only [unscripted, Bool.false_and, Bool.false_eq_true, if_false] at failed
  split at failed
  · next refused =>
      cases failed
      exact load_error refused
  · exact load_error failed

/-- A search ends as if nothing had been found only if every file that it tries fails so. -/
private theorem searchIn_error (unscripted : call.scripted = false) {denied : Bool} {last : Failure}
    {directories : List String} (reported : Reported last)
    (failed : searchIn files call denied last directories = .error failure) :
    Reported failure ∧ (failure = .os .noEntry → denied = false ∧ ∀ directory ∈ directories,
      ∃ other, loadFor files call (candidate directory call.name) = .error other ∧ IsAbsence other) := by
  fun_induction searchIn files call denied last directories with
  | case1 denied last =>
      cases denied with
      | true =>
          rw [if_pos rfl] at failed
          cases failed
          exact ⟨.os _, fun same => absurd same (by decide)⟩
      | false =>
          cases failed
          exact ⟨reported, fun _ => ⟨rfl, List.forall_mem_nil _⟩⟩
  | case2 => cases failed
  | case3 denied _ directory rest other refused passedOver ih =>
      obtain ⟨reported, missing⟩ := ih (loadFor_error unscripted refused).1 failed
      refine ⟨reported, fun same => ?_⟩
      obtain ⟨notDenied, others⟩ := missing same
      obtain ⟨notBefore, notNow⟩ := Bool.or_eq_false_iff.mp notDenied
      -- A file that is forbidden would be remembered, so this one is missing.
      have absence : IsAbsence other := by
        have allowed : other ≠ .os .accessDenied := of_decide_eq_false notNow
        simpa [isPassedOver, IsAbsence, allowed] using passedOver
      exact ⟨notBefore, List.forall_mem_cons.mpr ⟨⟨other, refused, absence⟩, others⟩⟩
  | case4 denied _ directory rest other refused stops =>
      cases failed
      exact ⟨(loadFor_error unscripted refused).1, fun same => absurd (same ▸ rfl) stops⟩

private theorem locate_error (unscripted : call.scripted = false) (searched : call.path = none)
    (failed : locate files call = .error failure) :
    Reported failure ∧ (failure = .os .noEntry → ∀ path ∈ candidates call.environment call.name,
      ∃ other, loadFor files call path = .error other ∧ IsAbsence other) := by
  unfold locate at failed
  rw [searched] at failed
  unfold candidates
  dsimp only at failed
  split at failed
  · next empty =>
      cases failed
      exact ⟨.os _, fun _ => by simp [empty]⟩
  · next named =>
      rw [if_neg named]
      split at failed
      · next slash =>
          rw [if_pos slash]
          exact ⟨(loadFor_error unscripted failed).1, fun same => List.forall_mem_singleton.mpr ⟨_, failed, .inl same⟩⟩
      · next noSlash =>
          obtain ⟨reported, unstartable⟩ := searchIn_error unscripted (.os _) failed
          rw [if_neg noSlash]
          exact ⟨reported, fun same => List.forall_mem_map.mpr (unstartable same).2⟩

private theorem begin_eq_error_iff {bound : Nat} (positive : 0 < bound) :
    begin bound call files = .error failure ↔ locate files call = .error failure := by
  obtain ⟨bound, rfl⟩ := Nat.exists_eq_add_of_lt positive
  rw [begin]
  cases locate files call <;> simp [Except.map]

private theorem lifetime_pos : 0 < Program.lifetime := by decide

end

section

variable {files : FileSystem} {user : User} {here : Location} {directory : String}

private theorem enter_error {failure : Failure} (failed : enter user here files directory = .error failure) :
    Reported failure ∧ (failure = .os .noEntry →
      files.stat { user, directory := here } directory = .error (.os .noEntry)) := by
  unfold enter at failed
  split at failed
  · next other lost =>
      cases failed
      exact ⟨reported_of_stat lost, fun same => same ▸ lost⟩
  · split at failed
    · cases failed
      exact ⟨.os _, fun same => absurd same (by decide)⟩
    · split at failed
      · cases failed
        exact ⟨.os _, fun same => absurd same (by decide)⟩
      · cases failed

private theorem enter_ok {place : Location} (entered : enter user here files directory = .ok place) :
    ∃ attributes, files.stat { user, directory := here } directory = .ok (place, .directory attributes) ∧
      attributes.admits user = true := by
  unfold enter at entered
  split at entered
  · cases entered
  · next location node found =>
      split at entered
      · cases entered
      · next directory =>
          split at entered
          · cases entered
          · next admitted =>
              cases entered
              cases node with
              | directory attributes => exact ⟨attributes, found, by simpa [FileSystem.attributesOf] using admitted⟩
              | file | link | device | program | pipe => exact absurd rfl directory

end

/-- The machine starts programs as documented. -/
theorem lawful_steps (user : User) (parent : Nat) (here : Location) (environment : Environment) :
    (steps user parent here environment).Lawful user here environment (start user parent here environment) where
  reported := by
    intro pid files command failure failed
    unfold start at failed
    split at failed
    · cases failed
      exact .command
    · split at failed
      · next other lost =>
          cases failed
          exact (enter_error lost).1
      · exact (locate_error rfl rfl ((begin_eq_error_iff lifetime_pos).mp failed)).1
  noEntry := by
    intro pid files command failed
    unfold start at failed
    split at failed
    · cases failed
    · split at failed
      · next other lost =>
          cases failed
          exact .inl lost
      · next place entered => exact .inr ⟨place, entered, failed⟩
  lost := fun failed => (enter_error failed).2 rfl
  entered := enter_ok
  searched := by
    intro pid files place program arguments failed path candidate
    obtain ⟨failure, refused, absence⟩ :=
      (locate_error rfl rfl ((begin_eq_error_iff lifetime_pos).mp failed)).2 rfl path candidate
    exact ⟨failure, (begin_eq_error_iff lifetime_pos).mpr refused, absence⟩
  executed := fun failed => (loadFor_error rfl ((begin_eq_error_iff lifetime_pos).mp failed)).2

/-! ## What is reported as missing

Both do happen: a directory that is gone, whatever is to be started there, and a script that is
there without its interpreter. -/

section

variable {files : FileSystem} {user : User} {parent pid : Nat} {here place : Location} {environment : Environment}
  {command : Command} {failure : Failure}

end

/-- A file is there under one of the paths that the name can mean, seen from the directory. -/
def Resolves (files : FileSystem) (user : User) (here : Location) (environment : Environment)
    (directory program : String) : Prop :=
  ∃ path ∈ candidates environment program, ∃ place : Location,
    (Path.isAbsolute path = true ∨ ∃ node, files.stat { user, directory := here } directory = .ok (place, node)) ∧
      files.hasPath { user, directory := place } path = true

end Host

end PipeShell
