import Mathlib.Data.List.Forall2
import PipeShell.Proofs.Pipeline.Runs

/-! # How the stages of a line are connected

The shell's thread starts the stages of a line from left to right and keeps, between
two starts, the reading end of the last pipe. The chain built so far is described as
an inductive relation that follows these starts; whatever others do meanwhile, a line
all of whose stages can be started ends up fully wired. -/

set_option autoImplicit false

namespace PipeShell.Pipeline

open PipeShell.System

def readPipe : Port → Option Nat
  | .reader pipe => some pipe
  | _ => none

def writtenPipe : Port → Option Nat
  | .writer pipe => some pipe
  | _ => none

namespace Launch

/-- The pipes that the process could read when it was started. -/
def inlets (launch : Launch) : List Nat := launch.process.holdings.ports.filterMap fun (_, port) => readPipe port

/-- The pipes that the process could write when it was started. -/
def outlets (launch : Launch) : List Nat := launch.process.holdings.ports.filterMap fun (_, port) => writtenPipe port

/-- The process is a new one, and its descriptors lead to these three ports. -/
def Streams (launch : Launch) (first second third : Port) : Prop :=
  launch.process =
    { program := launch.process.program, holdings := { ports := [(0, first), (1, second), (2, third)] } }

section Streams

variable {launch : Launch} {first second third : Port}

theorem Streams.input (streams : launch.Streams first second third) : launch.port 0 = some first := by
  rw [port, Holdings.port?, streams]
  rfl

theorem Streams.output (streams : launch.Streams first second third) : launch.port 1 = some second := by
  rw [port, Holdings.port?, streams]
  rfl

theorem Streams.error (streams : launch.Streams first second third) : launch.port 2 = some third := by
  rw [port, Holdings.port?, streams]
  rfl

theorem Streams.inlets (streams : launch.Streams first second third) :
    launch.inlets = (readPipe first).toList ++ (readPipe second).toList ++ (readPipe third).toList := by
  rw [Launch.inlets, streams]
  cases first <;> cases second <;> cases third <;> rfl

theorem Streams.outlets (streams : launch.Streams first second third) :
    launch.outlets = (writtenPipe first).toList ++ (writtenPipe second).toList ++ (writtenPipe third).toList := by
  rw [Launch.outlets, streams]
  cases first <;> cases second <;> cases third <;> rfl

end Streams

/-- The process does what the host starts for the stage's command. -/
def Runs (host : Host) (stage : Stage) (launch : Launch) : Prop :=
  ∃ files, host.start (State.pidOf host launch.index) files (host.launcher.command stage.argv host.directory) =
    .ok launch.process.program

end Launch

/-- The children of the shell's thread for stages and the processes started for
them. -/
def childrenFor (stages : List Stage) (launches : List Launch) : List Child :=
  stages.zipWith (fun stage launch => ⟨stage.program, launch.index⟩) launches

/-- Every process but the first reads the pipe that the one before it writes. -/
def Linked (launches : List Launch) : Prop :=
  ∀ number left right, launches[number]? = some left → launches[number + 1]? = some right →
    ∃ pipe, left.port 1 = some (.writer pipe) ∧ right.port 0 = some (.reader pipe)

/-- A descriptor leads to where the line sends a stream, or else to a pipe that is
drained into a sink. -/
def Delivered (launch : Launch) (descriptor : Nat) (target : Option Port) (sink : Sink)
    (drains : List (Nat × Option Sink)) : Prop :=
  match target with
  | some port => launch.port descriptor = some port
  | none => ∃ pipe, launch.port descriptor = some (.writer pipe) ∧ (pipe, some sink) ∈ drains

/-- Every pipe is written by one stream, and it is read by one process or one drain,
unless it is held; nothing else is read. -/
structure Balanced (launches : List Launch) (drains : List (Nat × Option Sink)) (held : Option Nat) : Prop where
  distinct : (launches.flatMap Launch.outlets).Nodup
  consumed : (launches.flatMap Launch.inlets ++ drains.map Prod.fst ++ held.toList).Perm
    (launches.flatMap Launch.outlets)

/-- The processes of the stages of a line with the drains of their streams, once all
of them are started. `ends` holds the ends of the line. -/
structure Wired (host : Host) (ends : State) (stages : List Stage) (launches : List Launch)
    (drains : List (Nat × Option Sink)) : Prop where
  /-- There is one process for each stage, in order. -/
  started : List.Forall₂ (Launch.Runs host) stages launches
  input : ∀ launch, launches.head? = some launch → launch.port 0 = some ends.input
  linked : Linked launches
  /-- Wherever the line sends its errors, those of the other stages are drained. -/
  captured : ∀ launch ∈ launches.dropLast, Delivered launch 2 none .error drains
  output : ∀ launch, launches.getLast? = some launch → Delivered launch 1 ends.output .output drains
  error : ∀ launch, launches.getLast? = some launch → Delivered launch 2 ends.error .error drains
  /-- No pipe is left over. -/
  balanced : Balanced launches drains none

/-! ## Chains of stages

A chain is what the thread has built when some stages are started and others are
not: no stage of it is the last one. -/

def inlet (ends : State) : Option Nat → Port
  | some pipe => .reader pipe
  | none => ends.input

/-- The stages started so far, the processes and the drains that were started for
them, the pipe whose reading end is held, and a number above all pipes in use. -/
inductive Chain (host : Host) (ends : State) :
    List Stage → List Launch → List (Nat × Option Sink) → Option Nat → Nat → Prop where
  | nil {limit : Nat} : Chain host ends [] [] [] none limit
  | link {stages : List Stage} {launches : List Launch} {drains : List (Nat × Option Sink)} {held : Option Nat}
      {limit pipe limit' : Nat} {stage : Stage} {launch : Launch} :
      Chain host ends stages launches drains held limit → limit ≤ pipe → pipe + 2 ≤ limit' →
      launch.Runs host stage →
      launch.Streams (inlet ends held) (.writer pipe) (.writer (pipe + 1)) →
      Chain host ends (stages ++ [stage]) (launches ++ [launch]) (drains ++ [(pipe + 1, some .error)])
        (some pipe) limit'

/-- Where a stream of the last stage leads, with the drain that takes it and the next
number of a pipe. -/
inductive Outlet (pipe : Nat) (sink : Sink) : Option Port → Port → List (Nat × Option Sink) → Nat → Prop where
  | file {port : Port} : Outlet pipe sink (some port) port [] pipe
  | pipe : Outlet pipe sink none (.writer pipe) [(pipe, some sink)] (pipe + 1)

namespace Chain

variable {host : Host} {ends : State} {stages : List Stage} {launches : List Launch}
  {drains : List (Nat × Option Sink)} {held : Option Nat} {limit : Nat}

theorem widen (chain : Chain host ends stages launches drains held limit) {limit' : Nat} (le : limit ≤ limit') :
    Chain host ends stages launches drains held limit' := by
  cases chain with
  | nil => exact .nil
  | link chain above below runs streams => exact .link chain above (Nat.le_trans below le) runs streams

theorem started (chain : Chain host ends stages launches drains held limit) :
    List.Forall₂ (Launch.Runs host) stages launches := by
  induction chain with
  | nil => exact .nil
  | link _ _ _ runs _ ih => exact List.rel_append ih (.cons runs .nil)

theorem held_eq (chain : Chain host ends stages launches drains held limit) :
    (launches = [] ∧ held = none) ∨
      ∃ launch pipe, launches.getLast? = some launch ∧ held = some pipe ∧ launch.port 1 = some (.writer pipe) := by
  cases chain with
  | nil => exact .inl ⟨rfl, rfl⟩
  | @link _ _ _ _ _ pipe _ _ launch _ _ _ _ streams =>
      exact .inr ⟨launch, pipe, by simp, rfl, streams.output⟩

/-! ### What one more stage adds

The stage may be the last one, so its streams lead anywhere. -/

section Concat

variable {launch : Launch}

theorem input_concat (chain : Chain host ends stages launches drains held limit)
    (before : ∀ launch, launches.head? = some launch → launch.port 0 = some ends.input)
    (reads : launch.port 0 = some (inlet ends held)) :
    ∀ first, (launches ++ [launch]).head? = some first → first.port 0 = some ends.input := by
  intro first found
  rcases chain.held_eq with ⟨rfl, rfl⟩ | ⟨last, _, foundLast, _, _⟩
  · obtain rfl : launch = first := by simpa using found
    exact reads
  · refine before first ?_
    cases launches with
    | nil => cases foundLast
    | cons => exact found

theorem linked_concat (chain : Chain host ends stages launches drains held limit) (before : Linked launches)
    (reads : launch.port 0 = some (inlet ends held)) : Linked (launches ++ [launch]) := by
  intro number left right foundLeft foundRight
  have bound := (List.getElem?_eq_some_iff.mp foundRight).1
  rw [List.length_append, List.length_singleton] at bound
  rw [List.getElem?_append_left (by omega)] at foundLeft
  by_cases inner : number + 1 < launches.length
  · rw [List.getElem?_append_left inner] at foundRight
    exact before number left right foundLeft foundRight
  · -- The new stage is the right one of the two, so the left one is the last so far.
    have here : number = launches.length - 1 := by omega
    obtain rfl : launch = right := by
      rw [List.getElem?_append_right (by omega), show number + 1 - launches.length = 0 by omega] at foundRight
      simpa using foundRight
    rw [here, ← List.getLast?_eq_getElem?] at foundLeft
    rcases chain.held_eq with ⟨rfl, _⟩ | ⟨last, pipe, foundLast, rfl, writes⟩
    · cases foundLeft
    · obtain rfl := Option.some.inj (foundLast.symm.trans foundLeft)
      exact ⟨pipe, writes, reads⟩

end Concat

end Chain

theorem Balanced.concat {launches : List Launch} {drains added : List (Nat × Option Sink)} {held held' : Option Nat}
    {launch : Launch} (balanced : Balanced launches drains held) (reads : launch.inlets = held.toList)
    (writes : (added.map Prod.fst ++ held'.toList).Perm launch.outlets) (distinct : launch.outlets.Nodup)
    (fresh : ∀ pipe ∈ launch.outlets, pipe ∉ launches.flatMap Launch.outlets) :
    Balanced (launches ++ [launch]) (drains ++ added) held' where
  distinct := by
    rw [List.flatMap_append, List.flatMap_singleton]
    exact List.nodup_append.mpr ⟨balanced.distinct, distinct, fun _ old _ new same => fresh _ new (same ▸ old)⟩
  consumed := by
    have consumed := balanced.consumed
    -- Each pipe is counted on its own, so the order of the consumers does not matter.
    rw [List.perm_iff_count] at consumed writes ⊢
    intro pipe
    have old := consumed pipe
    have new := writes pipe
    simp only [List.flatMap_append, List.flatMap_singleton, List.map_append, List.count_append, reads] at old new ⊢
    omega

namespace Chain

variable {host : Host} {ends : State} {stages : List Stage} {launches : List Launch}
  {drains : List (Nat × Option Sink)} {held : Option Nat} {limit : Nat}

private theorem input (chain : Chain host ends stages launches drains held limit) :
    ∀ launch, launches.head? = some launch → launch.port 0 = some ends.input := by
  induction chain with
  | nil => simp
  | link chain _ _ _ streams ih => exact chain.input_concat ih streams.input

private theorem linked (chain : Chain host ends stages launches drains held limit) : Linked launches := by
  induction chain with
  | nil => simp [Linked]
  | link chain _ _ _ streams ih => exact chain.linked_concat ih streams.input

theorem captured (chain : Chain host ends stages launches drains held limit) :
    ∀ launch ∈ launches, Delivered launch 2 none .error drains := by
  induction chain with
  | nil => simp
  | @link _ _ _ _ _ pipe _ _ launch _ _ _ _ streams ih =>
      intro one member
      rcases List.mem_append.mp member with old | new
      · obtain ⟨pipe, writes, drained⟩ := ih one old
        exact ⟨pipe, writes, List.mem_append_left _ drained⟩
      · obtain rfl := List.mem_singleton.mp new
        exact ⟨pipe + 1, streams.error, by simp⟩

section Balance

variable (file : readPipe ends.input = none ∧ writtenPipe ends.input = none)
include file

theorem readPipe_inlet (held : Option Nat) : readPipe (inlet ends held) = held := by
  cases held with
  | none => exact file.1
  | some pipe => rfl

theorem writtenPipe_inlet (held : Option Nat) : writtenPipe (inlet ends held) = none := by
  cases held with
  | none => exact file.2
  | some pipe => rfl

theorem outlets_lt (chain : Chain host ends stages launches drains held limit) :
    ∀ pipe ∈ launches.flatMap Launch.outlets, pipe < limit := by
  induction chain with
  | nil => simp
  | @link _ _ _ held _ pipe _ _ launch _ above below _ streams ih =>
      intro written member
      rw [List.flatMap_append, List.flatMap_singleton, List.mem_append, streams.outlets,
        writtenPipe_inlet file held] at member
      rcases member with old | new
      · have := ih written old
        omega
      · have : written = pipe ∨ written = pipe + 1 := by simpa [writtenPipe] using new
        omega

private theorem balanced (chain : Chain host ends stages launches drains held limit) :
    Balanced launches drains held := by
  induction chain with
  | nil => exact ⟨.nil, .rfl⟩
  | @link _ _ _ held _ pipe _ _ launch chain above _ _ streams ih =>
      have outlets : launch.outlets = [pipe, pipe + 1] := by
        rw [streams.outlets, writtenPipe_inlet file held]
        rfl
      refine ih.concat ?_ ?_ ?_ ?_
      · rw [streams.inlets, readPipe_inlet file held]
        simp [readPipe]
      · rw [outlets]
        exact .swap _ _ _
      · simp [outlets]
      · intro written new old
        have := chain.outlets_lt file written old
        have : written = pipe ∨ written = pipe + 1 := by simpa [outlets] using new
        omega

end Balance

end Chain

/-! ## The last stage -/

namespace Outlet

variable {pipe : Nat} {sink : Sink} {target : Option Port} {port : Port} {drains : List (Nat × Option Sink)}
  {next : Nat}

private theorem delivered (outlet : Outlet pipe sink target port drains next) {launch : Launch} {descriptor : Nat}
    (leads : launch.port descriptor = some port) {all : List (Nat × Option Sink)} (among : drains ⊆ all) :
    Delivered launch descriptor target sink all := by
  cases outlet with
  | file => exact leads
  | pipe => exact ⟨pipe, leads, among (List.mem_singleton_self _)⟩

theorem readPipe_eq (outlet : Outlet pipe sink target port drains next)
    (file : target.bind readPipe = none) : readPipe port = none := by
  cases outlet with
  | file => exact file
  | pipe => rfl

private theorem writtenPipe_eq (outlet : Outlet pipe sink target port drains next)
    (file : target.bind writtenPipe = none) : (writtenPipe port).toList = drains.map Prod.fst := by
  cases outlet with
  | file => exact congrArg Option.toList file
  | pipe => rfl

theorem fresh (outlet : Outlet pipe sink target port drains next) :
    pipe ≤ next ∧ (drains = [] ∨ drains = [(pipe, some sink)] ∧ next = pipe + 1) := by
  cases outlet with
  | file => exact ⟨Nat.le_refl _, .inl rfl⟩
  | pipe => exact ⟨Nat.le_succ _, .inr ⟨rfl, rfl⟩⟩

end Outlet

/-- The ends of a line lead to no pipe. -/
structure EndsInFiles (ends : State) : Prop where
  input : readPipe ends.input = none ∧ writtenPipe ends.input = none
  output : ends.output.bind readPipe = none ∧ ends.output.bind writtenPipe = none
  error : ends.error.bind readPipe = none ∧ ends.error.bind writtenPipe = none

theorem Chain.wired {host : Host} {ends : State} {stages : List Stage} {launches : List Launch}
    {drains outputDrains errorDrains : List (Nat × Option Sink)} {held : Option Nat} {limit next next' : Nat}
    {stage : Stage} {launch : Launch} {output error : Port} (files : EndsInFiles ends)
    (chain : Chain host ends stages launches drains held limit) (runs : launch.Runs host stage)
    (streams : launch.Streams (inlet ends held) output error)
    (outputOutlet : Outlet limit .output ends.output output outputDrains next)
    (errorOutlet : Outlet next .error ends.error error errorDrains next') :
    Wired host ends (stages ++ [stage]) (launches ++ [launch]) (drains ++ (errorDrains ++ outputDrains)) where
  started := List.rel_append chain.started (.cons runs .nil)
  input := chain.input_concat chain.input streams.input
  linked := chain.linked_concat chain.linked streams.input
  captured := by
    rw [List.dropLast_concat]
    intro one member
    obtain ⟨pipe, writes, drained⟩ := chain.captured one member
    exact ⟨pipe, writes, List.mem_append_left _ drained⟩
  output := by
    intro last found
    obtain rfl : launch = last := by simpa using found
    exact outputOutlet.delivered streams.output (by simp)
  error := by
    intro last found
    obtain rfl : launch = last := by simpa using found
    exact errorOutlet.delivered streams.error (by simp)
  balanced := by
    have outlets : launch.outlets = outputDrains.map Prod.fst ++ errorDrains.map Prod.fst := by
      rw [streams.outlets, Chain.writtenPipe_inlet files.input held, outputOutlet.writtenPipe_eq files.output.2,
        errorOutlet.writtenPipe_eq files.error.2]
      rfl
    obtain ⟨le, outputFresh⟩ := outputOutlet.fresh
    obtain ⟨_, errorFresh⟩ := errorOutlet.fresh
    refine (chain.balanced files.input).concat ?_ ?_ ?_ ?_
    · rw [streams.inlets, Chain.readPipe_inlet files.input held, outputOutlet.readPipe_eq files.output.1,
        errorOutlet.readPipe_eq files.error.1]
      simp
    · rw [outlets]
      simpa using List.perm_append_comm
    · rw [outlets]
      rcases outputFresh with rfl | ⟨rfl, rfl⟩ <;> rcases errorFresh with rfl | ⟨rfl, _⟩ <;> simp
    · intro written new old
      have := chain.outlets_lt files.input written old
      rw [outlets] at new
      rcases outputFresh with rfl | ⟨rfl, rfl⟩ <;> rcases errorFresh with rfl | ⟨rfl, _⟩ <;> simp at new <;> omega

end PipeShell.Pipeline
