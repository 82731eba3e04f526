import PipeShell.Pipeline.State

/-! # Programs that compute functions

A program computes a function if, however its input is cut into reads, it reads all of it
and writes what the function says. A program is finite, so it can do so only for one input
at a time, and each of its moves leads to a smaller program. -/

set_option autoImplicit false

namespace PipeShell

open PipeShell.System

namespace Pipeline

/-- What a program makes of its input: what it writes to its output and to its errors, and
how it ends. -/
structure Product where
  output : Bytes
  errors : Bytes
  status : ExitStatus
  deriving DecidableEq, Repr

namespace Product

def stream (product : Product) : Sink → Bytes
  | .output => product.output
  | .error => product.errors

def before (product : Product) (sink : Sink) (data : Bytes) : Product :=
  match sink with
  | .output => { product with output := data ++ product.output }
  | .error => { product with errors := data ++ product.errors }

variable (product : Product) (sink : Sink)

@[simp] theorem status_before (data : Bytes) : (product.before sink data).status = product.status := by
  cases sink <;> rfl

@[simp] theorem before_nil : product.before sink [] = product := by
  cases sink <;> rfl

theorem before_append (front back : Bytes) :
    product.before sink (front ++ back) = (product.before sink back).before sink front := by
  cases sink <;> simp [before]

theorem stream_before (other : Sink) (data : Bytes) :
    (product.before sink data).stream other = if other = sink then data ++ product.stream other else product.stream other := by
  cases sink <;> cases other <;> rfl

end Product

/-- The descriptor to which programs write what is for a sink. -/
def Sink.descriptor : Sink → Nat
  | .output => Program.outputDescriptor
  | .error => Program.errorDescriptor

end Pipeline

namespace Program

open PipeShell.Pipeline

/-- From an input that is still to be read the program makes a product: it reads the input
to its end, whatever pieces it gets, and writes; it may look at files, but changes none. -/
inductive Yields : Program → Bytes → Product → Prop where
  | exit {status : ExitStatus} : Yields (.exit status) [] ⟨[], [], status⟩
  | read {limit : Nat} {next : Except Errno Bytes → Program} {input : Bytes} {product : Product} : 0 < limit →
      (∀ data rest, input = data ++ rest → data.length ≤ limit → (data = [] → rest = []) →
        Yields (next (.ok data)) rest product) →
      Yields (.read inputDescriptor limit next) input product
  | write {sink : Pipeline.Sink} {data : Bytes} {next : Option Errno → Program} {input : Bytes} {product : Product} :
      Yields (next none) input product →
      Yields (.write sink.descriptor data next) input (product.before sink data)
  | files {change : FileSystem → FileSystem} {next : FileSystem → Program} {input : Bytes} {product : Product} :
      (∀ files, change files = files) → (∀ files, Yields (next files) input product) →
      Yields (.files change next) input product

/-! ## Moves make programs smaller -/

/-- What becomes of such a program in one move, unless it ends. -/
inductive Next : Program → Program → Prop where
  | read {descriptor limit : Nat} {next : Except Errno Bytes → Program} (answer : Except Errno Bytes) :
      Next (next answer) (.read descriptor limit next)
  | write {descriptor : Nat} {data : Bytes} {next : Option Errno → Program} (answer : Option Errno) :
      Next (next answer) (.write descriptor data next)
  | rest {descriptor : Nat} {data rest : Bytes} {next : Option Errno → Program} : rest.length < data.length →
      Next (.write descriptor rest next) (.write descriptor data next)
  | files {change : FileSystem → FileSystem} {next : FileSystem → Program} (files : FileSystem) :
      Next (next files) (.files change next)

private theorem acc_write {descriptor : Nat} {next : Option Errno → Program} (each : ∀ answer, Acc Next (next answer))
    (data : Bytes) : Acc Next (.write descriptor data next) := by
  -- Writing in parts only makes what is left to write shorter.
  generalize length : data.length = count
  induction count using Nat.strongRecOn generalizing data with
  | ind count ih =>
      constructor
      intro smaller step
      cases step with
      | write answer => exact each answer
      | rest shorter => exact ih _ (length ▸ shorter) _ rfl

theorem wellFounded_next : WellFounded Next := by
  constructor
  intro program
  induction program with
  | read descriptor limit next ih =>
      constructor
      intro smaller step
      cases step with
      | read answer => exact ih answer
  | write descriptor data next ih => exact acc_write ih data
  | files change next ih =>
      constructor
      intro smaller step
      cases step with
      | files files => exact ih files
  | _ =>
      constructor
      intro smaller step
      cases step

end Program

namespace Pipeline

/-! ## Stages one after the other -/

/-- The output of functions one after the other, each of which gets the output of the one
before it. -/
def compose (functions : List (Bytes → Product)) (input : Bytes) : Bytes :=
  functions.foldl (fun bytes function => (function bytes).output) input

/-- What the function with a number makes of the output of those before it. -/
def productAt (functions : List (Bytes → Product)) (input : Bytes) (index : Nat) : Product :=
  match functions[index]? with
  | some function => function (compose (functions.take index) input)
  | none => ⟨[], [], .success⟩

theorem compose_take_succ {functions : List (Bytes → Product)} {index : Nat} (bound : index < functions.length)
    (input : Bytes) :
    compose (functions.take (index + 1)) input = (productAt functions input index).output := by
  rw [compose, List.take_add_one, List.foldl_append, productAt, List.getElem?_eq_getElem bound]
  rfl

/-- Every stage can be started in a file system, and its program computes its function of
what the stages before it put out. -/
structure Host.Computes (host : Host) (files : FileSystem) (stages : List Stage) (functions : List (Bytes → Product))
    (input : Bytes) : Prop where
  length : functions.length = stages.length
  starts : ∀ index stage function, stages[index]? = some stage → functions[index]? = some function →
    ∃ program, host.start (host.firstPid + index) files (host.launcher.command stage.argv host.directory) = .ok program ∧
      program.Yields (compose (functions.take index) input) (function (compose (functions.take index) input))

theorem Host.Computes.start {host : Host} {files : FileSystem} {stages : List Stage} {functions : List (Bytes → Product)}
    {input : Bytes} (computes : host.Computes files stages functions input) {index : Nat} {stage : Stage}
    (found : stages[index]? = some stage) :
    ∃ program, host.start (host.firstPid + index) files (host.launcher.command stage.argv host.directory) = .ok program ∧
      program.Yields (compose (functions.take index) input) (productAt functions input index) := by
  have bound : index < functions.length := by
    rw [computes.length]
    exact (List.getElem?_eq_some_iff.mp found).1
  have foundFunction := List.getElem?_eq_getElem bound
  rw [productAt, foundFunction]
  exact computes.starts index stage _ found foundFunction

end Pipeline

end PipeShell
