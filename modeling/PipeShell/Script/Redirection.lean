import PipeShell.Script.Copy
import PipeShell.Script.Expansion
import PipeShell.System.Directories
import PipeShell.Utility.Basic

/-! # Redirections

The targets of all redirections of a command are expanded first, and then they
are opened one after the other. A target that cannot be opened spoils the
command. -/

set_option autoImplicit false

namespace PipeShell.Script

open PipeShell.System

inductive Opening where
  | file (descriptor : Nat) (mode : FileMode) (path : String)
  /-- Makes a descriptor lead where another one leads, or closes it. -/
  | duplicate (descriptor : Nat) (source : Option Nat)
  | document (descriptor : Nat) (word : Word)

def Opening.descriptor : Opening → Nat
  | .file descriptor _ _ => descriptor
  | .duplicate descriptor _ => descriptor
  | .document descriptor _ => descriptor

def readDescriptor? (marked : List Marked) : Option (Option Nat) :=
  match marked.map (·.1) with
  | [b] => if b = 45 then some none else if 48 ≤ b && b ≤ 57 then some (some (b.toNat - 48)) else none
  | _ => none

def expandTargets (context : Context) (hooks : Hooks) (bound : Nat) :
    List Redirect → State → List Opening → (State → List Opening → Program) → Program
  | [], state, done, next => next state done.reverse
  | .document descriptor number :: rest, state, done, next =>
    expandTargets context hooks bound rest state
      (.document descriptor ((state.documents.lookup number).getD []) :: done) next
  | .file descriptor mode target :: rest, state, done, next =>
    expandText context hooks bound .atStart target state fun state marked =>
      expandTargets context hooks bound rest state (.file descriptor mode (plainText marked) :: done) next
  | .duplicate descriptor target :: rest, state, done, next =>
    expandText context hooks bound .atStart target state fun state marked =>
      match readDescriptor? marked with
      | some source => expandTargets context hooks bound rest state (.duplicate descriptor source :: done) next
      | none =>
        State.complain { state with line := state.readLine } "Syntax error: Bad fd number" hooks.fail

def openingMessage (mode : FileMode) (path : String) (failure : Failure) : String :=
  let reading := mode = .input
  let text :=
    match failure with
    | .os e =>
      if e = .noEntry || e = .notDirectory then (if reading then "No such file" else "Directory nonexistent")
      else e.text
    | failure => failure.message
  (if reading then "cannot open " else "cannot create ") ++ path ++ ": " ++ text

def writeMode : FileMode → WriteMode
  | .append => .append
  | .update => .update
  | _ => .truncate

def openTarget (files : FileSystem) (state : State) (mode : FileMode) (path : String) :
    Except Failure (FileSystem × OpenFile) :=
  match mode with
  | .input => (files.openRead state.viewer path).map (files, ·)
  | .output =>
    let taken :=
      match files.stat state.viewer path with
      | .ok (_, node) => node.isFile
      | .error _ => false
    if state.has 'C' && taken then .error (.os .alreadyExists) else files.openWrite state.viewer .truncate path
  | mode => files.openWrite state.viewer (writeMode mode) path

/-- The descriptors that were redirected, each with a private one that leads where
it led before, unless it was closed. -/
abbrev Saved := List (Nat × Option Nat)

def keep (descriptor : Nat) (saved : Saved) (next : Saved → Program) : Program :=
  if (saved.lookup descriptor).isSome then next saved
  else
    .adjust (fun holdings =>
        match holdings.port? descriptor with
        | some port => holdings.connect holdings.fresh (some port)
        | none => holdings) fun holdings =>
      next ((descriptor, (holdings.port? descriptor).map fun _ => holdings.fresh) :: saved)

def restorePorts (saved : Saved) (next : Unit → Program) : Program :=
  if saved.isEmpty then next ()
  else
    Program.hold (fun holdings =>
      saved.foldl (fun holdings (descriptor, kept) =>
        match kept with
        | some kept => holdings.move kept descriptor
        | none => holdings.close [descriptor]) holdings) next

def documentRoom : Nat := 4096

def feed (context : Context) (state : State) (descriptor : Nat) (data : Bytes) (next : Unit → Program) : Program :=
  Program.withPipe fun reader writer =>
    let finish (_ : Unit) : Program :=
      Program.hold (fun holdings => (holdings.close [writer]).move reader descriptor) next
    if data.length ≤ documentRoom then .write writer data fun _ => finish ()
    else
      let change (holdings : Holdings) : Holdings :=
        [1, 2, 3].foldl (fun holdings signal => holdings.setPlan signal .ignored) (holdings.close [reader])
      forkCopy context state change (fun _ _ => .write writer data fun _ => .exitWith 0) fun _ => finish ()

/-- Opens targets one after the other, and goes on, or goes on after a failure.
With `keeps`, it is kept where the descriptors led before. -/
def openAll (context : Context) (hooks : Hooks) (bound : Nat) (keeps : Bool) (failed next : Saved → Next) :
    Saved → List Opening → State → Program
  | saved, [], state => next saved state
  | saved, opening :: rest, state =>
    let descriptor := opening.descriptor
    let proceed (state : State) (connect : (Unit → Program) → Program) : Program :=
      let go (saved : Saved) : Program :=
        connect fun _ => openAll context hooks bound keeps failed next saved rest state
      if keeps then keep descriptor saved go else go saved
    let lead (port : Option Port) (state : State) : Program :=
      proceed state (Program.hold fun holdings => holdings.connect descriptor port)
    let attach (state : State) (file : OpenFile) : Program := proceed state (Program.attach descriptor file)
    match opening with
    | .document _ word =>
      expandText context { hooks with fail := failed saved } bound .nowhere word state fun state marked =>
        proceed state (feed context state descriptor (marked.map (·.1)))
    | .duplicate _ none => lead none state
    | .duplicate _ (some source) =>
      if source = descriptor then openAll context hooks bound keeps failed next saved rest state
      else
        .adjust id fun holdings =>
          match holdings.port? source with
          | some port => lead (some port) state
          | none => state.complain (toString source ++ ": Bad file descriptor") (failed saved)
    | .file _ mode path =>
      .files (fun files =>
          match openTarget files state mode path with
          | .ok (files, _) => files
          | .error _ => files) fun files =>
        match openTarget files state mode path with
        | .ok (_, file) =>
          match file.node with
          | .pipe source => proceed state (Program.hold fun holdings => holdings.connect descriptor (holdings.port? source))
          | _ => attach state file
        | .error failure => state.complain (openingMessage mode path failure) (failed saved)

end PipeShell.Script
