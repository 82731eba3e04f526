import PipeShell.Machine
import PipeShell.Proofs.System.Trees

/-! # Where a session goes

A session changes its directory again and again, and between two changes anything may happen
to the files. What it remembers is always a canonical path. When a change succeeds, that path
leads through directories only and is its own resolution; when it fails, nothing has changed. -/

set_option autoImplicit false

namespace PipeShell

open PipeShell.System

/-- A path without detours: its names are not empty, and neither `.` nor `..` is one of them. -/
def IsCanonical (path : String) : Prop :=
  ∃ location : Location, path = location.path ∧ ∀ name ∈ location, IsName name

/-- At every step of the path there is a directory, so there is no link, and resolving the path
gives it back. -/
structure Settled (files : FileSystem) (viewer : Viewer) (path : String) : Prop where
  absolute : Path.isAbsolute path = true
  straight : ∃ location : Location, path = location.path ∧ (∀ name ∈ location, IsName name) ∧
    ∀ above, above <+: location → files.IsDirectory above
  directory : files.isDirectory viewer path = true
  again : ∀ home base, resolveDirectory files viewer home base (some path) = .ok path

private theorem Settled.isCanonical {files : FileSystem} {viewer : Viewer} {path : String}
    (settled : Settled files viewer path) : IsCanonical path := by
  obtain ⟨location, written, named, _⟩ := settled.straight
  exact ⟨location, written, named⟩

def targetPath (home : Option String) (base : String) : Option String → String
  | none => Path.expandTilde home "~"
  | some target => Path.join base (Path.expandTilde home target)

theorem resolveDirectory_eq (files : FileSystem) (viewer : Viewer) (home : Option String) (base : String)
    (target : Option String) :
    resolveDirectory files viewer home base target = (do
      let location ← files.canonical viewer (targetPath home base target)
      if files.isDirectory viewer location.path then .ok location.path
      else .error (.described .notFound ("not a directory: " ++ location.path))) := by
  cases target <;> rfl

section

variable {files : FileSystem} {viewer : Viewer} {home : Option String} {base path : String} {target : Option String}

private theorem resolveDirectory_eq_ok_iff : resolveDirectory files viewer home base target = .ok path ↔
    ∃ location : Location, path = location.path ∧ files.isDirectory viewer location.path = true ∧
      files.canonical viewer (targetPath home base target) = .ok location := by
  rw [resolveDirectory_eq]
  cases files.canonical viewer (targetPath home base target) with
  | error => simp [bind, Except.bind]
  | ok location =>
      simp only [bind, Except.bind, Except.ok.injEq]
      split
      · next directory =>
          constructor
          · rintro ⟨rfl⟩
            exact ⟨location, rfl, directory, rfl⟩
          · rintro ⟨_, rfl, _, rfl⟩
            rfl
      · next noDirectory =>
          constructor
          · exact fun moved => nomatch moved
          · rintro ⟨_, _, directory, rfl⟩
            exact absurd directory noDirectory

/-- A change of directory that succeeds leads to a canonical path. -/
theorem settled_of_resolveDirectory (tree : files.Tree)
    (resolved : resolveDirectory files viewer home base target = .ok path) : Settled files viewer path := by
  obtain ⟨location, rfl, directory, canonical⟩ := resolveDirectory_eq_ok_iff.mp resolved
  have there := tree.isDirectory_of_canonical canonical directory
  refine ⟨location.isAbsolute_path, ⟨location, rfl, fun _ => tree.isName there, ?_⟩, directory, fun home base => ?_⟩
  · rintro above ⟨rest, rfl⟩
    exact tree.isDirectory_of_append there
  · refine resolveDirectory_eq_ok_iff.mpr ⟨location, rfl, directory, ?_⟩
    rw [targetPath, Location.expandTilde_path, Path.join, location.isAbsolute_path, if_pos rfl]
    exact tree.canonical_path there directory

end

/-! ## Runs -/

/-- A change of directory that is asked for, with the machine as it is at that moment. -/
structure Visit where
  machine : Machine
  target : Option String

namespace Session

variable (look : Look) (session : Session) (visit : Visit)

/-- Where the session would be after the visit, if it succeeds. -/
def answer : Except Failure Session :=
  session.changeDirectory visit.machine.files visit.machine.viewer visit.machine.home visit.target

def visiting : Session :=
  (({ world := visit.machine, session } : Shell Machine).changeDirectory Machine.world look visit.target).session

def after (visits : List Visit) : Session := visits.foldl (Session.visiting look) session

theorem visiting_eq : session.visiting look visit = (session.answer visit).toOption.getD session := by
  unfold Session.visiting answer changeDirectory Shell.changeDirectory
  simp only [Machine.world]
  cases resolveDirectory visit.machine.files visit.machine.viewer visit.machine.home session.directory
    visit.target <;> rfl

variable {look session visit}

theorem settled_of_answer {moved : Session} (tree : visit.machine.files.Tree) (answered : session.answer visit = .ok moved) :
    Settled visit.machine.files visit.machine.viewer moved.directory := by
  unfold answer changeDirectory at answered
  split at answered
  · next directory resolved =>
      cases answered
      exact settled_of_resolveDirectory tree resolved
  · cases answered

/-- One visit leads from a canonical path to a canonical path. -/
theorem isCanonical_visiting (canonical : IsCanonical session.directory) (tree : visit.machine.files.Tree) :
    IsCanonical (session.visiting look visit).directory := by
  rw [visiting_eq]
  cases answered : session.answer visit with
  | error => exact canonical
  | ok moved => exact (settled_of_answer tree answered).isCanonical

private theorem isCanonical_after {visits : List Visit} (canonical : IsCanonical session.directory)
    (trees : ∀ visit ∈ visits, visit.machine.files.Tree) : IsCanonical (session.after look visits).directory := by
  induction visits generalizing session with
  | nil => exact canonical
  | cons visit visits ih =>
      obtain ⟨tree, others⟩ := List.forall_mem_cons.mp trees
      exact ih (isCanonical_visiting canonical tree) others

/-- Every visit on the way either succeeds, and the session is at a settled path, or fails and
leaves it where it was. -/
theorem settled_of_visits (look : Look) {session : Session} {visits : List Visit}
    (canonical : IsCanonical session.directory) (trees : ∀ visit ∈ visits, visit.machine.files.Tree) :
    IsCanonical (session.after look visits).directory ∧
      ∀ earlier visit later, visits = earlier ++ visit :: later →
        (∀ moved, (session.after look earlier).answer visit = .ok moved →
          session.after look (earlier ++ [visit]) = moved ∧
            Settled visit.machine.files visit.machine.viewer moved.directory) ∧
        ∀ failure, (session.after look earlier).answer visit = .error failure →
          session.after look (earlier ++ [visit]) = session.after look earlier := by
  refine ⟨isCanonical_after canonical trees, ?_⟩
  rintro earlier visit later rfl
  have step : session.after look (earlier ++ [visit]) = (session.after look earlier).visiting look visit := by
    simp only [after, List.foldl_append, List.foldl_cons, List.foldl_nil]
  have tree := trees visit (List.mem_append_right _ List.mem_cons_self)
  constructor
  · intro moved answered
    rw [step, visiting_eq, answered]
    exact ⟨rfl, settled_of_answer tree answered⟩
  · intro failure answered
    rw [step, visiting_eq, answered]
    rfl

/-- Along a link and up from where it leads, home, and home once more when everything is gone. -/
theorem settled_of_visits_along_link :
    let files : FileSystem :=
      { entries := [([], .directory ⟨0o755, 0⟩), (["a"], .directory ⟨0o755, 0⟩), (["a", "b"], .directory ⟨0o755, 0⟩),
          (["l"], .link "a/b")] }
    let machine (files : FileSystem) : Machine :=
      { files
        viewer := ⟨0, ["a"], 0o022⟩
        environment := ⟨[("HOME", "/a/b")]⟩
        account := none
        reader := ⟨{ node := .device .null }, []⟩
        threshold := .off
        stamp := ⟨1, "2000-01-31", "23:59:59"⟩
        historyFile := "/h"
        lines := .idle files { node := .device .null } }
    let visits : List Visit := [⟨machine files, some "l/.."⟩, ⟨machine files, none⟩, ⟨machine .empty, none⟩]
    let look : Look := ⟨.standard, false⟩
    let start : Session := ⟨"/"⟩
    IsCanonical start.directory ∧ (∀ visit ∈ visits, visit.machine.files.Tree) ∧
      start.after look (visits.take 1) = ⟨"/a"⟩ ∧ Settled files ⟨0, ["a"], 0o022⟩ "/a/b" ∧
      start.after look visits = ⟨"/a/b"⟩ := by
  intro files machine visits look start
  have canonical : IsCanonical start.directory := ⟨[], by cbv, List.forall_mem_nil _⟩
  have trees : ∀ visit ∈ visits, visit.machine.files.Tree := by
    have full : files.Tree := .of_entries (by decide) (by decide) (by decide)
    have bare : FileSystem.empty.Tree := .of_entries (by decide) (by decide) (by decide)
    exact List.forall_mem_cons.mpr ⟨full, List.forall_mem_cons.mpr ⟨full, List.forall_mem_singleton.mpr bare⟩⟩
  have visited := (settled_of_visits look canonical trees).2
  have through : start.answer ⟨machine files, some "l/.."⟩ = .ok ⟨"/a"⟩ := by cbv
  have home : Session.answer ⟨"/a"⟩ ⟨machine files, none⟩ = .ok ⟨"/a/b"⟩ := by cbv
  have gone : Session.answer ⟨"/a/b"⟩ ⟨machine .empty, none⟩ = .error (.os .noEntry) := by cbv
  obtain ⟨first, _⟩ := (visited [] ⟨machine files, some "l/.."⟩ (visits.drop 1) rfl).1 ⟨"/a"⟩ through
  rw [List.nil_append] at first
  have second := (visited [⟨machine files, some "l/.."⟩] ⟨machine files, none⟩ (visits.drop 2) rfl).1 ⟨"/a/b"⟩
  rw [first] at second
  obtain ⟨second, settled⟩ := second home
  have third := (visited (visits.take 2) ⟨machine .empty, none⟩ [] rfl).2 (.os .noEntry)
  have middle : start.after look (visits.take 2) = ⟨"/a/b"⟩ := second
  rw [middle] at third
  exact ⟨canonical, trees, first, settled, third gone⟩

end Session

end PipeShell
