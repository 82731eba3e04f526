import PipeShell.Process.Program

/-! # A fresh machine

The directories and devices that every machine has before anything is done with
it. -/

set_option autoImplicit false

namespace PipeShell.Host

open PipeShell.System

def pipeCapacity : Nat := 65536

/-- The directories, by their paths from the root. -/
def freshDirectories : List Location :=
  [[], ["boot"], ["dev"], ["dev", "pts"], ["dev", "shm"], ["etc"], ["home"], ["media"], ["mnt"], ["opt"], ["proc"],
    ["proc", "self"], ["proc", "self", "fd"], ["run"], ["srv"], ["sys"], ["usr"], ["usr", "bin"], ["usr", "games"],
    ["usr", "include"], ["usr", "lib"], ["usr", "lib64"], ["usr", "libexec"], ["usr", "local"], ["usr", "local", "bin"],
    ["usr", "local", "etc"], ["usr", "local", "games"], ["usr", "local", "include"], ["usr", "local", "lib"],
    ["usr", "local", "sbin"], ["usr", "local", "share"], ["usr", "local", "src"], ["usr", "sbin"], ["usr", "share"],
    ["usr", "src"], ["var"], ["var", "backups"], ["var", "cache"], ["var", "lib"], ["var", "local"], ["var", "log"],
    ["var", "mail"], ["var", "opt"], ["var", "spool"]]

def freshLinks : List (Location × String) :=
  [(["bin"], "usr/bin"), (["lib"], "usr/lib"), (["lib64"], "usr/lib64"), (["sbin"], "usr/sbin"),
    (["dev", "fd"], "/proc/self/fd"), (["dev", "stdin"], "/proc/self/fd/0"), (["dev", "stdout"], "/proc/self/fd/1"),
    (["dev", "stderr"], "/proc/self/fd/2"), (["usr", "local", "man"], "share/man"), (["var", "run"], "/run"),
    (["var", "lock"], "/run/lock")]

/-- The file system of a fresh machine with the given programs. -/
def freshFiles (programs : List String) : FileSystem := {
  entries :=
    freshDirectories.map (fun place => (place, Node.directory ⟨0o755, 0⟩)) ++
    [["tmp"], ["var", "tmp"], ["run", "lock"]].map (fun place => (place, Node.directory ⟨0o1777, 0⟩)) ++
    [(["root"], .directory ⟨0o700, 0⟩), (["dev", "null"], .device .null), (["dev", "zero"], .device .zero),
      (["dev", "full"], .device .full)] ++
    freshLinks.map (fun (place, target) => (place, .link target)) ++
    programs.map fun name => (["usr", "bin", name], .program name) }

/-- The file system with an input for whoever looks, and the input, opened. Without any bytes
to read, the input is the empty device. -/
def withInput (files : FileSystem) (content : Option Bytes) : FileSystem × OpenFile :=
  let (files, input) : FileSystem × OpenFile :=
    match content with
    | some content => (files.addFile ⟨⟨0o600, 0⟩, content⟩, { node := .file files.stored.length })
    | none => (files, OpenFile.null)
  ({ files with descriptors := [(Program.inputDescriptor, input.node)] }, input)

end PipeShell.Host
