import PipeShell.Proofs.Pipeline.Interference

/-! # What becomes of processes when one of them moves

A process that moves may end, fork, wait for its children, send signals and change what
it holds. It is said once, for every process there is, what such a move can make of it:
nobody but its own parent waits for a process, and a process gets at the end of a pipe
only if it was started with it, if whoever forked it held it, or if it made the pipe. -/

set_option autoImplicit false

namespace PipeShell

open PipeShell.System

def Port.pipe? : Port → Option Nat
  | .reader pipe => some pipe
  | .writer pipe => some pipe
  | _ => none

namespace Holdings

def leads (holdings : Holdings) (port : Port) : Bool := holdings.ports.any (·.2 == port)

theorem leads_connect {holdings : Holdings} {descriptor : Nat} {port other : Port}
    (leads : (holdings.connect descriptor (some port)).leads other = true) :
    port = other ∨ holdings.leads other = true := by
  obtain ⟨entry, member, same⟩ := List.any_eq_true.mp leads
  rcases List.mem_append.mp member with new | old
  · obtain rfl : entry = (descriptor, port) := by simpa using new
    exact .inl (eq_of_beq same)
  · exact .inr (List.any_eq_true.mpr ⟨entry, (List.mem_filter.mp old).1, same⟩)

/-- The change may close, move and copy descriptors, but none of them leads to one of the
given ports that was out of reach before. -/
def Confines (ends : Port → Prop) (change : Holdings → Holdings) : Prop :=
  ∀ holdings port, ends port → (change holdings).leads port = true → holdings.leads port = true

end Holdings

/-- A program that gets at some ports by no change of its descriptors. It may fork as it
likes, and pass on or close what it holds. -/
inductive Program.Confined (ends : Port → Prop) : Program → Prop where
  | exit {status : ExitStatus} : Confined ends (.exit status)
  | read {descriptor limit : Nat} {next : Except Errno Bytes → Program} :
      (∀ answer, Confined ends (next answer)) → Confined ends (.read descriptor limit next)
  | write {descriptor : Nat} {data : Bytes} {next : Option Errno → Program} :
      (∀ answer, Confined ends (next answer)) → Confined ends (.write descriptor data next)
  | files {change : FileSystem → FileSystem} {next : FileSystem → Program} :
      (∀ files, Confined ends (next files)) → Confined ends (.files change next)
  | adjust {change : Holdings → Holdings} {next : Holdings → Program} :
      Holdings.Confines ends change → (∀ holdings, Confined ends (next holdings)) →
      Confined ends (.adjust change next)
  | attach {descriptor : Nat} {file : OpenFile} {next : Unit → Program} :
      (∀ answer, Confined ends (next answer)) → Confined ends (.attach descriptor file next)
  | pipe {reader writer : Nat} {next : Unit → Program} :
      (∀ answer, Confined ends (next answer)) → Confined ends (.pipe reader writer next)
  | inspect {descriptor : Nat} {next : Option (Port × Option OpenFile) → Program} :
      (∀ answer, Confined ends (next answer)) → Confined ends (.inspect descriptor next)
  | seek {descriptor position : Nat} {next : Bool → Program} :
      (∀ answer, Confined ends (next answer)) → Confined ends (.seek descriptor position next)
  | fork {change : Holdings → Holdings} {child next : Nat → Program} :
      Holdings.Confines ends change → (∀ pid, Confined ends (child pid)) → (∀ pid, Confined ends (next pid)) →
      Confined ends (.fork change child next)
  | wait {mode : WaitMode} {next : WaitAnswer → Program} :
      (∀ answer, Confined ends (next answer)) → Confined ends (.wait mode next)
  | signal {process number : Nat} {next : Bool → Program} :
      (∀ answer, Confined ends (next answer)) → Confined ends (.signal process number next)
  | noted {next : List Nat → Program} : (∀ signals, Confined ends (next signals)) → Confined ends (.noted next)
  | sleep {duration : Nat} {next : Unit → Program} :
      (∀ answer, Confined ends (next answer)) → Confined ends (.sleep duration next)

namespace Pipeline

/-! ## One process -/

def Process.holds (process : Process) (port : Port) : Bool := process.isRunning && process.holdings.leads port

/-- What a process, or its copy, has from the one it was: the program and the ends of
pipes, those aside that were made between two numbers. -/
structure Process.Bequeaths (low high : Nat) (earlier later : Process) : Prop where
  confined : ∀ ends : Port → Prop, earlier.program.Confined ends → later.program.Confined ends
  holds : ∀ ends : Port → Prop, earlier.program.Confined ends → ∀ port pipe, ends port → port.pipe? = some pipe →
    later.holds port = true → earlier.holds port = true ∨ low ≤ pipe ∧ pipe < high

/-- What becomes of a process. How it ended stays so; and whoever was started by the shell
is waited for by nobody else. -/
structure Process.Fate (low high : Nat) (earlier later : Process) : Prop
    extends earlier.Bequeaths low high later where
  status : ∀ status, earlier.status = some status → later.status = some status
  waits : earlier.waits ≤ later.waits
  own : earlier.parent = .shell → later.parent = .shell ∧ later.waits = earlier.waits

namespace Process

variable {low middle high : Nat} {first second third earlier later process : Process}

theorem Bequeaths.trans (one : first.Bequeaths low middle second) {low' : Nat} (two : second.Bequeaths low' high third)
    (more : low ≤ low') (less : middle ≤ high) : first.Bequeaths low high third where
  confined := fun ends confined => two.confined ends (one.confined ends confined)
  holds := by
    intro ends confined port pipe among isEnd holds
    rcases two.holds ends (one.confined ends confined) port pipe among isEnd holds with old | new
    · rcases one.holds ends confined port pipe among isEnd old with older | _
      · exact .inl older
      · exact .inr (by omega)
    · exact .inr (by omega)

namespace Fate

private theorem trans (one : first.Fate low middle second) {low' : Nat} (two : second.Fate low' high third)
    (more : low ≤ low') (less : middle ≤ high) : first.Fate low high third where
  toBequeaths := one.toBequeaths.trans two.toBequeaths more less
  status := fun status ended => two.status status (one.status status ended)
  waits := Nat.le_trans one.waits two.waits
  own := by
    intro shell
    obtain ⟨middleShell, middleWaits⟩ := one.own shell
    obtain ⟨lastShell, lastWaits⟩ := two.own middleShell
    exact ⟨lastShell, lastWaits.trans middleWaits⟩

/-- A process that goes on with the same things in hand. -/
theorem proceed (confined : ∀ ends : Port → Prop, earlier.program.Confined ends → later.program.Confined ends)
    (holdings : later.holdings = earlier.holdings) (status : later.status = earlier.status)
    (parent : later.parent = earlier.parent) (waits : later.waits = earlier.waits) : earlier.Fate low high later where
  confined := confined
  holds := by
    intro ends _ port pipe _ _ holds
    refine .inl ?_
    simpa only [Process.holds, Process.isRunning, holdings, status] using holds
  status := fun code ended => status.trans ended
  waits := Nat.le_of_eq waits.symm
  own := fun shell => ⟨parent.trans shell, waits⟩

theorem refl (process : Process) : process.Fate low high process := proceed (fun _ => id) rfl rfl rfl rfl

/-- A process that runs may come by other things. -/
theorem rewire (running : earlier.isRunning = true)
    (confined : ∀ ends : Port → Prop, earlier.program.Confined ends → later.program.Confined ends)
    (leads : ∀ ends : Port → Prop, earlier.program.Confined ends → ∀ port pipe, ends port → port.pipe? = some pipe →
      later.holdings.leads port = true → earlier.holdings.leads port = true ∨ low ≤ pipe ∧ pipe < high)
    (parent : later.parent = earlier.parent) (waits : later.waits = earlier.waits) : earlier.Fate low high later where
  confined := confined
  holds := by
    intro ends among port pipe isEnd ofPipe holds
    obtain ⟨_, reached⟩ := Bool.and_eq_true_iff.mp holds
    rcases leads ends among port pipe isEnd ofPipe reached with old | new
    · exact .inl (Bool.and_eq_true_iff.mpr ⟨running, old⟩)
    · exact .inr new
  status := by
    intro status ended
    simp [Process.isRunning, ended] at running
  waits := Nat.le_of_eq waits.symm
  own := fun shell => ⟨parent.trans shell, waits⟩

/-- Whatever became of a process, it may go on as another program. -/
theorem goOn (fate : earlier.Fate low high later) {program : Program}
    (confined : ∀ ends : Port → Prop, earlier.program.Confined ends → program.Confined ends) :
    earlier.Fate low high { later with program } where
  confined := confined
  holds := fate.holds
  status := fate.status
  waits := fate.waits
  own := fate.own

private theorem finish (running : process.isRunning = true) (status : ExitStatus) :
    process.Fate low high { process with status := some status } where
  confined := fun _ => id
  holds := fun _ _ _ _ _ _ holds => (nomatch holds)
  status := by
    intro status ended
    simp [Process.isRunning, ended] at running
  waits := Nat.le_refl _
  own := fun shell => ⟨shell, rfl⟩

/-- Only who was started by another process can lose its parent. -/
theorem orphan {parent : Nat} (started : process.parent = .process parent) :
    process.Fate low high { process with parent := .nobody } where
  confined := fun _ => id
  holds := fun _ _ _ _ _ _ => .inl
  status := fun _ => id
  waits := Nat.le_refl _
  own := fun shell => nomatch started.symm.trans shell

/-- Only who was started by another process is waited for by one. -/
theorem awaited {parent : Nat} (started : process.parent = .process parent) :
    process.Fate low high { process with waits := process.waits + 1 } where
  confined := fun _ => id
  holds := fun _ _ _ _ _ _ => .inl
  status := fun _ => id
  waits := Nat.le_succ _
  own := fun shell => nomatch started.symm.trans shell

end Fate

end Process

/-! ## All processes -/

namespace State

/-- What a process can do to the state: it works on files and pipes, and every process
meets its fate. Those that are born come from others. -/
structure Stirs (before after : State) : Prop where
  frame : ∃ files opened pipes processes killed, after = { before with files, opened, pipes, processes, killed }
  pipes : before.pipes.length ≤ after.pipes.length
  process : ∀ (index : Nat) (earlier : Process), before.processes[index]? = some earlier →
    ∃ later, after.processes[index]? = some later ∧ earlier.Fate before.pipes.length after.pipes.length later
  born : ∀ (index : Nat) (later : Process), before.processes.length ≤ index → after.processes[index]? = some later →
    ∃ earlier ∈ before.processes, earlier.Bequeaths before.pipes.length after.pipes.length later

namespace Stirs

variable {host : Host} {before after state : State} {index : Nat} {process : Process}

theorem copiers (stirs : Stirs before after) : after.copiers = before.copiers := by
  obtain ⟨_, _, _, _, _, rfl⟩ := stirs.frame
  rfl

/-- Every process comes from one that was there before. -/
theorem exists_earlier (stirs : Stirs before after) {later : Process} (member : later ∈ after.processes) :
    ∃ earlier ∈ before.processes, earlier.Bequeaths before.pipes.length after.pipes.length later := by
  obtain ⟨index, found⟩ := List.mem_iff_getElem?.mp member
  rcases Nat.lt_or_ge index before.processes.length with old | new
  · obtain ⟨same, foundSame, fate⟩ := stirs.process index _ (List.getElem?_eq_getElem old)
    obtain rfl := Option.some.inj (found.symm.trans foundSame)
    exact ⟨_, List.getElem_mem old, fate.toBequeaths⟩
  · exact stirs.born index later new found

private theorem trans {first second third : State} (one : Stirs first second) (two : Stirs second third) :
    Stirs first third where
  frame := by
    obtain ⟨_, _, _, _, _, rfl⟩ := one.frame
    obtain ⟨_, _, _, _, _, rfl⟩ := two.frame
    exact ⟨_, _, _, _, _, rfl⟩
  pipes := Nat.le_trans one.pipes two.pipes
  process := by
    intro index earlier found
    obtain ⟨middle, foundMiddle, first⟩ := one.process index earlier found
    obtain ⟨later, foundLater, second⟩ := two.process index middle foundMiddle
    exact ⟨later, foundLater, first.trans second one.pipes two.pipes⟩
  born := by
    intro index later _ found
    obtain ⟨middle, memberMiddle, second⟩ := two.exists_earlier (List.mem_of_getElem? found)
    obtain ⟨earlier, member, first⟩ := one.exists_earlier memberMiddle
    exact ⟨earlier, member, first.trans second one.pipes two.pipes⟩

/-! ### Parts of a move -/

/-- As long as no process is born, each of them tells what became of it. -/
theorem ofProcesses {files : FileSystem} {opened : List OpenFile} {pipes : List Buffer} {processes : List Process}
    {killed : Option Nat} (more : state.pipes.length ≤ pipes.length) (length : processes.length = state.processes.length)
    (fate : ∀ (index : Nat) (earlier : Process), state.processes[index]? = some earlier →
      ∃ later, processes[index]? = some later ∧ earlier.Fate state.pipes.length pipes.length later) :
    Stirs state { state with files, opened, pipes, processes, killed } where
  frame := ⟨_, _, _, _, _, rfl⟩
  pipes := more
  process := fate
  born := by
    intro index later beyond found
    have bound : index < processes.length := (List.getElem?_eq_some_iff.mp found).1
    omega

theorem ofSame {files : FileSystem} {opened : List OpenFile} {pipes : List Buffer} {killed : Option Nat}
    (more : state.pipes.length ≤ pipes.length) : Stirs state { state with files, opened, pipes, killed } :=
  ofProcesses more rfl fun _ earlier found => ⟨earlier, found, .refl earlier⟩

theorem refl (state : State) : Stirs state state := ofSame (Nat.le_refl _)

theorem setProcess (found : state.processes[index]? = some process) {changed : Process}
    (fate : process.Fate state.pipes.length state.pipes.length changed) :
    Stirs state (state.setProcess index changed) := by
  refine ofProcesses (Nat.le_refl _) List.length_set ?_
  intro other earlier foundOther
  by_cases here : index = other
  · subst here
    obtain rfl := Option.some.inj (found.symm.trans foundOther)
    have bound := (List.getElem?_eq_some_iff.mp found).1
    exact ⟨changed, by simp [bound], fate⟩
  · exact ⟨earlier, by simpa [List.getElem?_set_ne here] using foundOther, .refl earlier⟩

/-- Whatever a process has done, it may change itself. -/
theorem resume (stirs : Stirs before after) (found : before.processes[index]? = some process)
    {change : Process → Process}
    (fate : ∀ later : Process, process.Fate before.pipes.length after.pipes.length later →
      process.Fate before.pipes.length after.pipes.length (change later)) :
    Stirs before { after with processes := after.processes.modify index change } where
  frame := by
    obtain ⟨_, _, _, _, _, rfl⟩ := stirs.frame
    exact ⟨_, _, _, _, _, rfl⟩
  pipes := stirs.pipes
  process := by
    intro other earlier foundOther
    obtain ⟨later, foundLater, fateLater⟩ := stirs.process other earlier foundOther
    refine ⟨_, (List.getElem?_modify ..).trans (congrArg _ foundLater), ?_⟩
    dsimp only
    split
    · next here =>
        subst here
        obtain rfl := Option.some.inj (found.symm.trans foundOther)
        exact fate later fateLater
    · exact fateLater
  born := by
    intro other later beyond foundOther
    have different : index ≠ other := by
      have := (List.getElem?_eq_some_iff.mp found).1
      omega
    refine stirs.born other later beyond ?_
    simpa [List.getElem?_modify, different] using foundOther

private theorem goOn (stirs : Stirs before after) (found : before.processes[index]? = some process) {program : Program}
    (confined : ∀ ends : Port → Prop, process.program.Confined ends → program.Confined ends) :
    Stirs before { after with processes := after.processes.modify index fun process => { process with program } } :=
  stirs.resume found fun _ fate => fate.goOn confined

/-- A process that was ended meanwhile does not go on. -/
theorem goOnRunning (stirs : Stirs before after) (found : before.processes[index]? = some process) {program : Program}
    (confined : ∀ ends : Port → Prop, process.program.Confined ends → program.Confined ends) :
    Stirs before { after with processes := after.processes.modify index fun process =>
      if process.isRunning then { process with program } else process } := by
  refine stirs.resume found fun later fate => ?_
  split
  · exact fate.goOn confined
  · exact fate

theorem finish (found : state.processes[index]? = some process) (running : process.isRunning = true)
    (status : ExitStatus) : Stirs state (state.finish index status) := by
  refine ofProcesses (Nat.le_refl _) (by simp) ?_
  intro other earlier foundOther
  refine ⟨_, by rw [List.getElem?_mapIdx, foundOther, Option.map_some], ?_⟩
  split
  · next here =>
      subst here
      obtain rfl := Option.some.inj (found.symm.trans foundOther)
      exact .finish running status
  · split
    · next started => exact .orphan started
    · split
      · exact .proceed (fun _ => id) rfl rfl rfl rfl
      · exact .refl earlier

theorem strike (found : state.processes[index]? = some process) (running : process.isRunning = true) (signal : Nat) :
    Stirs state (state.strike index process signal) := by
  unfold State.strike
  dsimp only
  have awake : ∃ stopped, (if signal = continueSignal then { process with stopped := false } else process) =
      { process with stopped } := by
    split
    · exact ⟨_, rfl⟩
    · exact ⟨process.stopped, rfl⟩
  obtain ⟨stopped, same⟩ := awake
  rw [same]
  split
  · exact setProcess found (.proceed (fun _ => id) rfl rfl rfl rfl)
  · exact setProcess found (.proceed (fun _ => id) rfl rfl rfl rfl)
  · split
    · exact setProcess found (.proceed (fun _ => id) rfl rfl rfl rfl)
    · split
      · exact setProcess found (.proceed (fun _ => id) rfl rfl rfl rfl)
      · exact finish found running _

theorem pull {port : Option Port} {limit : Nat} {answer : Except Errno Bytes}
    (pulled : state.pull port limit = some (after, answer)) :
    Stirs state after ∧ after.processes = state.processes := by
  rcases Undisturbed.pull_cases pulled with rfl | ⟨_, _, _, _, _, rfl⟩ | ⟨_, _, _, rfl⟩
  · exact ⟨refl _, rfl⟩
  · exact ⟨ofSame (Nat.le_refl _), rfl⟩
  · exact ⟨ofSame (Nat.le_of_eq List.length_set.symm), rfl⟩

private theorem push {port : Option Port} {data : Bytes} {written : Written}
    (pushed : state.push host port data = some (after, written)) :
    Stirs state after ∧ after.processes = state.processes := by
  rcases Undisturbed.push_cases pushed with rfl | ⟨_, _, _, _, _, _, rfl⟩ | ⟨_, _, _, rfl⟩
  · exact ⟨refl _, rfl⟩
  · exact ⟨ofSame (Nat.le_refl _), rfl⟩
  · exact ⟨ofSame (Nat.le_of_eq List.length_set.symm), rfl⟩

private theorem process?_eq_some {pid : Nat} (known : state.process? host pid = some (index, process)) :
    state.processes[index]? = some process := by
  unfold State.process? at known
  split at known
  · cases known
  · split at known
    · next found =>
        split at known
        · cases known
        · cases known
          exact found
    · cases known

private theorem deliver (host : Host) (state : State) (target signal : Nat) :
    Stirs state (state.deliver host target signal).1 := by
  unfold State.deliver
  split
  · exact refl state
  · split
    · split
      · exact refl state
      · exact ofSame (Nat.le_refl _)
    · split
      · exact refl state
      · next known =>
          dsimp only
          split
          · next struck => exact strike (process?_eq_some known) (Bool.and_eq_true_iff.mp struck).1 signal
          · exact refl state

private theorem await {mode : WaitMode} {answer : WaitAnswer}
    (awaited : state.await host index process mode = some (after, answer)) : Stirs state after := by
  unfold State.await at awaited
  dsimp only at awaited
  split at awaited
  · next number child found =>
      cases awaited
      obtain ⟨among, isChild⟩ := List.mem_filter.mp (List.mem_of_find?_eq_some found)
      obtain ⟨⟨other, place⟩, member, same⟩ := List.mem_map.mp among
      obtain ⟨rfl, rfl⟩ := Prod.mk.inj same
      have started : other.parent = .process index := by
        simpa using (Bool.and_eq_true_iff.mp isChild).1
      exact setProcess (List.mem_zipIdx_iff_getElem?.mp member) (.awaited started)
  · split at awaited
    · cases awaited
      exact refl _
    · split at awaited
      · cases awaited
        exact refl _
      · cases awaited

theorem addOpened (state : State) (file : OpenFile) :
    Stirs state (state.addOpened file).1 ∧ (state.addOpened file).1.processes = state.processes ∧
      (state.addOpened file).1.pipes = state.pipes := by
  unfold State.addOpened
  split
  · exact ⟨ofSame (Nat.le_refl _), rfl, rfl⟩
  · exact ⟨ofSame (Nat.le_refl _), rfl, rfl⟩

/-- A copy comes from the process that made it. -/
theorem fork (stirs : Stirs before after) (member : process ∈ before.processes) {copy : Process}
    (bequeaths : process.Bequeaths before.pipes.length after.pipes.length copy) :
    Stirs before { after with processes := after.processes ++ [copy] } where
  frame := by
    obtain ⟨_, _, _, _, _, rfl⟩ := stirs.frame
    exact ⟨_, _, _, _, _, rfl⟩
  pipes := stirs.pipes
  process := by
    intro index earlier found
    obtain ⟨later, foundLater, fate⟩ := stirs.process index earlier found
    have bound := (List.getElem?_eq_some_iff.mp foundLater).1
    exact ⟨later, (List.getElem?_append_left bound).trans foundLater, fate⟩
  born := by
    intro index later beyond found
    rcases List.mem_append.mp (List.mem_of_getElem? found) with old | new
    · exact stirs.exists_earlier old
    · obtain rfl := List.mem_singleton.mp new
      exact ⟨process, member, bequeaths⟩

/-- Whoever makes a pipe holds both of its ends. -/
theorem makePipe (found : state.processes[index]? = some process) (running : process.isRunning = true)
    {reader writer : Nat} {program : Program}
    (confined : ∀ ends : Port → Prop, process.program.Confined ends → program.Confined ends) :
    Stirs state ({ state with pipes := state.pipes ++ [Buffer.empty] }.setProcess index
      { process with
        program := program
        holdings := (process.holdings.connect reader (some (.reader state.pipes.length))).connect writer
          (some (.writer state.pipes.length)) }) := by
  refine ofProcesses (by simp) List.length_set ?_
  intro other earlier foundOther
  by_cases here : index = other
  · subst here
    obtain rfl := Option.some.inj (found.symm.trans foundOther)
    have bound := (List.getElem?_eq_some_iff.mp found).1
    refine ⟨_, List.getElem?_set_self bound, .rewire running confined ?_ rfl rfl⟩
    intro ends _ port pipe _ ofPipe leads
    have new (made : port.pipe? = some state.pipes.length) :
        state.pipes.length ≤ pipe ∧ pipe < (state.pipes ++ [Buffer.empty]).length := by
      obtain rfl := Option.some.inj (made.symm.trans ofPipe)
      simp
    rcases Holdings.leads_connect leads with rfl | before
    · exact .inr (new rfl)
    · rcases Holdings.leads_connect before with rfl | before
      · exact .inr (new rfl)
      · exact .inl before
  · exact ⟨earlier, by simpa [List.getElem?_set_ne here] using foundOther, .refl earlier⟩

/-! ### Whole moves -/

theorem moveProcess (found : state.processes[index]? = some process) (running : process.isRunning = true)
    (moved : state.moveProcess host index process = some after) : Stirs state after := by
  -- A program that is confined goes on as one that is; the cases name what follows it.
  cases behaves_of_moveProcess moved with
  | exit => exact finish found running _
  | read behaviour pulled =>
      refine (pull pulled).1.goOn found fun ends confined => ?_
      rw [behaviour] at confined
      cases confined with
      | read rest => exact rest _
  | wrote behaviour pushed =>
      refine (push pushed).1.goOn found fun ends confined => ?_
      rw [behaviour] at confined
      cases confined with
      | write rest => exact rest none
  | wrotePart behaviour pushed =>
      refine (push pushed).1.goOn found fun ends confined => ?_
      rw [behaviour] at confined
      cases confined with
      | write rest => exact .write rest
  | @refused _ _ _ between failure behaviour pushed =>
      obtain ⟨stirs, same⟩ := push pushed
      have struck : Stirs state (if failure = .brokenPipe then between.strike index process brokenPipeSignal
          else between) := by
        split
        · exact stirs.trans (strike (same ▸ found) running _)
        · exact stirs
      refine struck.goOnRunning found fun ends confined => ?_
      rw [behaviour] at confined
      cases confined with
      | write rest => exact rest _
  | files behaviour =>
      refine (ofSame (Nat.le_refl _)).goOn found fun ends confined => ?_
      rw [behaviour] at confined
      cases confined with
      | files rest => exact rest _
  | adjust behaviour =>
      refine setProcess found (.rewire running (fun ends confined => ?_) (fun ends confined => ?_) rfl rfl)
      · rw [behaviour] at confined
        cases confined with
        | adjust _ rest => exact rest _
      · rw [behaviour] at confined
        cases confined with
        | adjust confines _ => exact fun port _ isEnd _ leads => .inl (confines _ port isEnd leads)
  | @attach _ file _ behaviour =>
      obtain ⟨stirs, same, pipes⟩ := addOpened state file
      refine stirs.trans (setProcess (same ▸ found) (.rewire running (fun ends confined => ?_) ?_ rfl rfl))
      · rw [behaviour] at confined
        cases confined with
        | attach rest => exact rest ()
      · intro ends _ port pipe _ ofPipe leads
        rcases Holdings.leads_connect leads with rfl | before
        · cases ofPipe
        · exact .inl before
  | pipe behaviour =>
      refine makePipe found running fun ends confined => ?_
      rw [behaviour] at confined
      cases confined with
      | pipe rest => exact rest ()
  | inspect behaviour =>
      refine (refl state).goOn found fun ends confined => ?_
      rw [behaviour] at confined
      cases confined with
      | inspect rest => exact rest _
  | sought behaviour =>
      have opened (slot : Nat) (file : OpenFile) : Stirs state (state.setOpened slot file) := ofSame (Nat.le_refl _)
      refine (opened _ _).goOn found fun ends confined => ?_
      rw [behaviour] at confined
      cases confined with
      | seek rest => exact rest true
  | unsought behaviour =>
      refine (refl state).goOn found fun ends confined => ?_
      rw [behaviour] at confined
      cases confined with
      | seek rest => exact rest false
  | @fork change child next pid advanced behaviour _ same =>
      have rest (ends : Port → Prop) (confined : process.program.Confined ends) :
          Holdings.Confines ends change ∧ (∀ pid, (child pid).Confined ends) ∧ ∀ pid, (next pid).Confined ends := by
        rw [behaviour] at confined
        cases confined with
        | fork confines children rest => exact ⟨confines, children, rest⟩
      have stirs : Stirs state advanced :=
        same ▸ setProcess found (.proceed (fun ends confined => (rest ends confined).2.2 _) rfl rfl rfl rfl)
      refine stirs.fork (List.mem_of_getElem? found) ⟨fun ends confined => (rest ends confined).2.1 _, ?_⟩
      intro ends confined port pipe isEnd _ holds
      obtain ⟨_, leads⟩ := Bool.and_eq_true_iff.mp holds
      exact .inl (Bool.and_eq_true_iff.mpr ⟨running, (rest ends confined).1 _ port isEnd leads⟩)
  | wait behaviour awaited =>
      refine (await awaited).goOn found fun ends confined => ?_
      rw [behaviour] at confined
      cases confined with
      | wait rest => exact rest _
  | signal behaviour =>
      refine (deliver host state _ _).goOnRunning found fun ends confined => ?_
      rw [behaviour] at confined
      cases confined with
      | signal rest => exact rest _
  | noted behaviour =>
      refine setProcess found (.proceed (fun ends confined => ?_) rfl rfl rfl rfl)
      rw [behaviour] at confined
      cases confined with
      | noted rest => exact rest _
  | asleep => exact setProcess found (.proceed (fun _ => id) rfl rfl rfl rfl)
  | awake behaviour =>
      refine setProcess found (.proceed (fun ends confined => ?_) rfl rfl rfl rfl)
      rw [behaviour] at confined
      cases confined with
      | sleep rest => exact rest ()

end Stirs

end State

end Pipeline

end PipeShell
