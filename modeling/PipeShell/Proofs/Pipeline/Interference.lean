import PipeShell.Pipeline.Step

/-! # What the others leave alone

While the shell's thread carries out a line, processes, copiers, the clock and the
threads of earlier lines move too. None of them touches the thread, the ends of the
line, what the copiers copy from and to, or the files that the ends lead to; pipes
and processes only become more.

What a process does is told once, as a relation with a case for each thing that its program
can ask for; whatever is to be shown of a process's moves is shown case by case. -/

set_option autoImplicit false

namespace PipeShell

def System.OpenFile.rewound (file : System.OpenFile) : System.OpenFile := { file with offset := 0 }

namespace Pipeline

open PipeShell.System

/-- Whether an action belongs to the part in which the stages are started. -/
def Action.isStarting : Action → Bool
  | .spawn .. => true
  | .settle => true
  | _ => false

def Copier.course (copier : Copier) : Nat × Option Sink := (copier.pipe, copier.sink)

namespace State

/-! ## What a process does -/

/-- A process goes on with a program. -/
def goOn (state : State) (index : Nat) (program : Program) : State :=
  { state with processes := state.processes.modify index fun process => { process with program } }

/-- A process goes on with a program, unless it was ended meanwhile. -/
def goOnRunning (state : State) (index : Nat) (program : Program) : State :=
  { state with processes := state.processes.modify index fun process =>
      if process.isRunning then { process with program } else process }

/-- What becomes of what a process does next, with one case for each thing that it may do and each
answer that it may get. -/
inductive Behaves (host : Host) (state : State) (index : Nat) (process : Process) : State → Prop where
  | exit {status : ExitStatus} : process.program = .exit status →
      Behaves host state index process (state.finish index status)
  | read {descriptor limit : Nat} {next : Except Errno Bytes → Program} {between : State} {answer : Except Errno Bytes} :
      process.program = .read descriptor limit next →
      state.pull (process.holdings.port? descriptor) limit = some (between, answer) →
      Behaves host state index process (between.goOn index (next answer))
  | wrote {descriptor : Nat} {data : Bytes} {next : Option Errno → Program} {between : State} :
      process.program = .write descriptor data next →
      state.push host (process.holdings.port? descriptor) data = some (between, .all) →
      Behaves host state index process (between.goOn index (next none))
  | wrotePart {descriptor : Nat} {data rest : Bytes} {next : Option Errno → Program} {between : State} :
      process.program = .write descriptor data next →
      state.push host (process.holdings.port? descriptor) data = some (between, .part rest) →
      Behaves host state index process (between.goOn index (.write descriptor rest next))
  | refused {descriptor : Nat} {data : Bytes} {next : Option Errno → Program} {between : State} {failure : Errno} :
      process.program = .write descriptor data next →
      state.push host (process.holdings.port? descriptor) data = some (between, .failed failure) →
      Behaves host state index process
        ((if failure = .brokenPipe then between.strike index process brokenPipeSignal else between).goOnRunning index
          (next (some failure)))
  | files {change : FileSystem → FileSystem} {next : FileSystem → Program} : process.program = .files change next →
      Behaves host state index process
        ({ state with files :=
            { change { state.files with descriptors := state.descriptorsOf process } with
              descriptors := state.files.descriptors } }.goOn index
          (next { state.files with descriptors := state.descriptorsOf process }))
  | adjust {change : Holdings → Holdings} {next : Holdings → Program} : process.program = .adjust change next →
      Behaves host state index process (state.setProcess index
        { process with holdings := change process.holdings, program := next process.holdings })
  | attach {descriptor : Nat} {file : OpenFile} {next : Unit → Program} : process.program = .attach descriptor file next →
      Behaves host state index process ((state.addOpened file).1.setProcess index
        { process with
          holdings := process.holdings.connect descriptor (some (.file (state.addOpened file).2)), program := next () })
  | pipe {reader writer : Nat} {next : Unit → Program} : process.program = .pipe reader writer next →
      Behaves host state index process ({ state with pipes := state.pipes ++ [Buffer.empty] }.setProcess index
        { process with
          holdings := (process.holdings.connect reader (some (.reader state.pipes.length))).connect writer
            (some (.writer state.pipes.length))
          program := next () })
  | inspect {descriptor : Nat} {next : Option (Port × Option OpenFile) → Program} :
      process.program = .inspect descriptor next →
      Behaves host state index process (state.goOn index (next ((process.holdings.port? descriptor).map fun port =>
        match port with
        | .file slot => (port, state.opened[slot]?)
        | port => (port, none))))
  | sought {descriptor position slot : Nat} {next : Bool → Program} {file : OpenFile} :
      process.program = .seek descriptor position next → process.holdings.port? descriptor = some (.file slot) →
      state.opened[slot]? = some file →
      Behaves host state index process ((state.setOpened slot { file with offset := position }).goOn index (next true))
  | unsought {descriptor position : Nat} {next : Bool → Program} : process.program = .seek descriptor position next →
      (∀ slot, process.holdings.port? descriptor = some (.file slot) → state.opened[slot]? = none) →
      Behaves host state index process (state.goOn index (next false))
  | fork {change : Holdings → Holdings} {child next : Nat → Program} {pid : Nat} {advanced : State} :
      process.program = .fork change child next → pid = pidOf host state.processes.length →
      advanced = state.setProcess index { process with program := next pid } →
      Behaves host state index process { advanced with
        processes := advanced.processes ++
          [{ program := child pid, holdings := change process.holdings, parent := .process index }] }
  | wait {mode : WaitMode} {next : WaitAnswer → Program} {between : State} {answer : WaitAnswer} :
      process.program = .wait mode next → state.await host index process mode = some (between, answer) →
      Behaves host state index process (between.goOn index (next answer))
  | signal {target signal : Nat} {next : Bool → Program} : process.program = .signal target signal next →
      Behaves host state index process
        ((state.deliver host target signal).1.goOnRunning index (next (state.deliver host target signal).2))
  | noted {next : List Nat → Program} : process.program = .noted next →
      Behaves host state index process
        (state.setProcess index { process with noted := [], program := next process.noted })
  | asleep {duration : Nat} {next : Unit → Program} : process.program = .sleep duration next → process.wake = none →
      Behaves host state index process (state.setProcess index { process with wake := some (state.clock + duration) })
  | awake {duration moment : Nat} {next : Unit → Program} : process.program = .sleep duration next →
      process.wake = some moment → moment ≤ state.clock →
      Behaves host state index process (state.setProcess index { process with wake := none, program := next () })

theorem behaves_of_moveProcess {host : Host} {state after : State} {index : Nat} {process : Process}
    (moved : state.moveProcess host index process = some after) : Behaves host state index process after := by
  unfold moveProcess at moved
  cases behaviour : process.program with
  | exit status =>
      simp only [behaviour, Option.some.injEq] at moved
      exact moved ▸ .exit behaviour
  | read descriptor limit next =>
      simp only [behaviour] at moved
      split at moved
      · cases moved
      · next pulled =>
          cases moved
          exact .read behaviour pulled
  | write descriptor data next =>
      simp only [behaviour] at moved
      split at moved
      · cases moved
      · next pushed =>
          cases moved
          exact .wrote behaviour pushed
      · next pushed =>
          cases moved
          exact .wrotePart behaviour pushed
      · next pushed =>
          cases moved
          exact .refused behaviour pushed
  | files change next =>
      simp only [behaviour, Option.some.injEq] at moved
      exact moved ▸ .files behaviour
  | adjust change next =>
      simp only [behaviour, Option.some.injEq] at moved
      exact moved ▸ .adjust behaviour
  | attach descriptor file next =>
      simp only [behaviour, Option.some.injEq] at moved
      exact moved ▸ .attach behaviour
  | pipe reader writer next =>
      simp only [behaviour, Option.some.injEq] at moved
      exact moved ▸ .pipe behaviour
  | inspect descriptor next =>
      simp only [behaviour, Option.some.injEq] at moved
      exact moved ▸ .inspect behaviour
  | seek descriptor position next =>
      simp only [behaviour] at moved
      split at moved
      · next slot leads =>
          split at moved
          · next found =>
              cases moved
              exact .sought behaviour leads found
          · next missing =>
              cases moved
              refine .unsought behaviour fun other same => ?_
              cases leads.symm.trans same
              exact missing
      · next elsewhere =>
          cases moved
          exact .unsought behaviour fun slot leads => absurd leads (elsewhere slot)
  | fork change child next =>
      simp only [behaviour, Option.some.injEq] at moved
      exact moved ▸ .fork behaviour rfl rfl
  | wait mode next =>
      simp only [behaviour] at moved
      split at moved
      · cases moved
      · next awaited =>
          cases moved
          exact .wait behaviour awaited
  | signal target signal next =>
      simp only [behaviour, Option.some.injEq] at moved
      exact moved ▸ .signal behaviour
  | noted next =>
      simp only [behaviour, Option.some.injEq] at moved
      exact moved ▸ .noted behaviour
  | sleep duration next =>
      simp only [behaviour] at moved
      split at moved
      · next unset =>
          cases moved
          exact behaviour ▸ .asleep behaviour unset
      · next moment set =>
          split at moved
          · cases moved
          · next due =>
              cases moved
              exact .awake behaviour set (Nat.not_lt.mp due)

/-! ## The ends of a line -/

/-- The entries of the table of open files that the ends of the line lead to, with
the shell's own input. -/
def IsEnd (state : State) (slot : Nat) : Prop :=
  slot = 0 ∨ state.input = .file slot ∨ state.output = some (.file slot) ∨ state.error = some (.file slot)

end State

/-- The ends of the line are the same, and so are the files they lead to, up to the
positions in them. -/
structure SameEnds (start state : State) : Prop where
  input : state.input = start.input
  output : state.output = start.output
  error : state.error = start.error
  opened : ∀ slot file, start.IsEnd slot → start.opened[slot]? = some file →
    ∃ later, state.opened[slot]? = some later ∧ later.rewound = file.rewound

namespace SameEnds

theorem sameOpened {start state : State} (same : state.opened = start.opened) :
    ∀ slot file, start.IsEnd slot → start.opened[slot]? = some file →
      ∃ later, state.opened[slot]? = some later ∧ later.rewound = file.rewound := by
  intro slot file _ found
  exact ⟨file, same ▸ found, rfl⟩

theorem refl (state : State) : SameEnds state state := ⟨rfl, rfl, rfl, sameOpened rfl⟩

theorem trans {start before after : State} (same : SameEnds start before) (next : SameEnds before after) :
    SameEnds start after where
  input := next.input.trans same.input
  output := next.output.trans same.output
  error := next.error.trans same.error
  opened := by
    intro slot file isEnd found
    obtain ⟨middle, foundMiddle, sameMiddle⟩ := same.opened slot file isEnd found
    have isEndMiddle : before.IsEnd slot := by
      rwa [State.IsEnd, same.input, same.output, same.error]
    obtain ⟨later, foundLater, sameLater⟩ := next.opened slot middle isEndMiddle foundMiddle
    exact ⟨later, foundLater, sameLater.trans sameMiddle⟩

end SameEnds

namespace State

/-- One state follows another without the shell's thread having moved. -/
structure Undisturbed (before after : State) : Prop extends SameEnds before after where
  conductor : after.conductor = before.conductor
  reapers : ∀ reaper ∈ after.reapers, ∃ earlier ∈ before.reapers, reaper.agenda ⊆ earlier.agenda
  courses : after.copiers.map Copier.course = before.copiers.map Copier.course
  pipes : before.pipes.length ≤ after.pipes.length
  processes : before.processes.length ≤ after.processes.length

namespace Undisturbed

theorem sameReapers {before after : State} (same : after.reapers = before.reapers) :
    ∀ reaper ∈ after.reapers, ∃ earlier ∈ before.reapers, reaper.agenda ⊆ earlier.agenda := by
  intro reaper member
  exact ⟨reaper, same ▸ member, fun _ => id⟩

/-- What leaves the thread, the copiers and the pipes alone, and takes no process away. -/
theorem ofEnds {before after : State} (same : SameEnds before after) (conductor : after.conductor = before.conductor)
    (reapers : after.reapers = before.reapers) (copiers : after.copiers = before.copiers)
    (pipes : before.pipes.length ≤ after.pipes.length)
    (processes : before.processes.length ≤ after.processes.length) : Undisturbed before after :=
  ⟨same, conductor, sameReapers reapers, copiers ▸ rfl, pipes, processes⟩

theorem refl (state : State) : Undisturbed state state :=
  ofEnds (.refl state) rfl rfl rfl (Nat.le_refl _) (Nat.le_refl _)

theorem trans {first second third : State} (one : Undisturbed first second) (two : Undisturbed second third) :
    Undisturbed first third where
  toSameEnds := one.toSameEnds.trans two.toSameEnds
  conductor := two.conductor.trans one.conductor
  reapers := by
    intro reaper member
    obtain ⟨middle, middleMember, kept⟩ := two.reapers reaper member
    obtain ⟨earlier, earlierMember, keptBefore⟩ := one.reapers middle middleMember
    exact ⟨earlier, earlierMember, fun _ found => keptBefore (kept found)⟩
  courses := two.courses.trans one.courses
  pipes := Nat.le_trans one.pipes two.pipes
  processes := Nat.le_trans one.processes two.processes

/-! ## Parts of a move -/

/-- Whatever becomes of the files, the processes, the clock and the shell itself
disturbs nothing as long as no process goes away. -/
theorem ofProcesses (state : State) (files : FileSystem) (processes : List Process) (log : List LogRecord)
    (clock : Nat) (killed : Option Nat) (length : state.processes.length ≤ processes.length) :
    Undisturbed state { state with files, processes, log, clock, killed } :=
  ofEnds ⟨rfl, rfl, rfl, SameEnds.sameOpened rfl⟩ rfl rfl rfl (Nat.le_refl _) length

theorem setProcess (state : State) (index : Nat) (process : Process) :
    Undisturbed state (state.setProcess index process) :=
  ofProcesses state _ _ _ _ _ (by simp)

private theorem modifyProcess (state : State) (index : Nat) (change : Process → Process) :
    Undisturbed state { state with processes := state.processes.modify index change } :=
  ofProcesses state _ _ _ _ _ (by simp)

theorem finish (state : State) (index : Nat) (status : ExitStatus) :
    Undisturbed state (state.finish index status) :=
  ofProcesses state _ _ _ _ _ (by simp)

theorem note (state : State) (severity : Severity) (text : String) : Undisturbed state (state.note severity text) :=
  ofProcesses state _ _ _ _ _ (Nat.le_refl _)

theorem setPipe (state : State) (number : Nat) (content : Buffer) :
    Undisturbed state (state.setPipe number content) :=
  ofEnds ⟨rfl, rfl, rfl, SameEnds.sameOpened rfl⟩ rfl rfl rfl (by simp [State.setPipe]) (Nat.le_refl _)

theorem setOpened {state : State} {slot : Nat} {file moved : OpenFile} (found : state.opened[slot]? = some file)
    (same : moved.rewound = file.rewound) : Undisturbed state (state.setOpened slot moved) := by
  refine ofEnds ⟨rfl, rfl, rfl, ?_⟩ rfl rfl rfl (Nat.le_refl _) (Nat.le_refl _)
  intro other otherFile _ foundOther
  by_cases here : slot = other
  · subst here
    obtain rfl := Option.some.inj (found.symm.trans foundOther)
    have bound := (List.getElem?_eq_some_iff.mp found).1
    exact ⟨moved, by simp [State.setOpened, bound], same⟩
  · exact ⟨otherFile, by simpa [State.setOpened, List.getElem?_set, here] using foundOther, rfl⟩

private theorem seek {state : State} {slot : Nat} {file : OpenFile} (found : state.opened[slot]? = some file)
    (position : Nat) : Undisturbed state (state.setOpened slot { file with offset := position }) :=
  setOpened found rfl

/-- An entry that an end of the line leads to is never taken for another file. -/
theorem addOpened (state : State) (file : OpenFile) : Undisturbed state (state.addOpened file).1 := by
  unfold State.addOpened
  split
  · next slot free =>
      refine ofEnds ⟨rfl, rfl, rfl, ?_⟩ rfl rfl rfl (Nat.le_refl _) (Nat.le_refl _)
      intro other otherFile isEnd found
      have closed := List.find?_some free
      have different : slot ≠ other := by
        rintro rfl
        rcases isEnd with rfl | input | output | error
        all_goals simp_all [isOpen]
      exact ⟨otherFile, by simpa [State.setOpened, List.getElem?_set, different] using found, rfl⟩
  · refine ofEnds ⟨rfl, rfl, rfl, ?_⟩ rfl rfl rfl (Nat.le_refl _) (Nat.le_refl _)
    intro other otherFile _ found
    have bound := (List.getElem?_eq_some_iff.mp found).1
    exact ⟨otherFile, by simpa [List.getElem?_append_left bound] using found, rfl⟩

/-! ## Reading and writing -/

private theorem rewound_of_read {files : FileSystem} {file moved : OpenFile} {limit : Nat} {data : Bytes}
    (read : files.read file limit = .ok (data, moved)) : moved.rewound = file.rewound := by
  unfold FileSystem.read at read
  split at read
  · cases read
  · split at read <;> cases read <;> rfl

private theorem rewound_of_write {files written : FileSystem} {file moved : OpenFile} {data : Bytes}
    (wrote : files.write file data = .ok (written, moved)) : moved.rewound = file.rewound := by
  unfold FileSystem.write at wrote
  split at wrote
  · cases wrote
  · split at wrote
    · split at wrote
      · cases wrote; rfl
      · split at wrote <;> cases wrote <;> rfl
    · cases wrote
    · split at wrote <;> cases wrote; rfl
    · cases wrote; rfl

/-- What reading can change: the position in a file, or the content of a pipe. -/
theorem pull_cases {state after : State} {port : Option Port} {limit : Nat} {answer : Except Errno Bytes}
    (pulled : state.pull port limit = some (after, answer)) :
    after = state ∨
      (∃ slot file moved, state.opened[slot]? = some file ∧ moved.rewound = file.rewound ∧
        after = state.setOpened slot moved) ∨
      ∃ number content, port = some (.reader number) ∧ after = state.setPipe number content := by
  unfold State.pull at pulled
  split at pulled
  · cases pulled; exact .inl rfl
  · cases pulled; exact .inl rfl
  · cases pulled; exact .inl rfl
  · next slot =>
      split at pulled
      · cases pulled; exact .inl rfl
      · next file found =>
          split at pulled
          · cases pulled; exact .inl rfl
          · next data moved read =>
              cases pulled
              exact .inr (.inl ⟨slot, file, moved, found, rewound_of_read read, rfl⟩)
  · next number =>
      split at pulled
      · cases pulled; exact .inl rfl
      · next content found =>
          split at pulled
          · split at pulled
            · cases pulled
            · cases pulled; exact .inl rfl
          · cases pulled
            exact .inr (.inr ⟨number, _, rfl, rfl⟩)

/-- What writing can change: a file and the position in it, or the content of a pipe. -/
theorem push_cases {host : Host} {state after : State} {port : Option Port} {data : Bytes} {written : Written}
    (pushed : state.push host port data = some (after, written)) :
    after = state ∨
      (∃ files slot file moved, state.opened[slot]? = some file ∧ moved.rewound = file.rewound ∧
        after = { state with files }.setOpened slot moved) ∨
      ∃ number content, port = some (.writer number) ∧ after = state.setPipe number content := by
  unfold State.push at pushed
  split at pushed
  · cases pushed; exact .inl rfl
  · cases pushed; exact .inl rfl
  · cases pushed; exact .inl rfl
  · next slot =>
      split at pushed
      · cases pushed; exact .inl rfl
      · next file found =>
          split at pushed
          · cases pushed; exact .inl rfl
          · next files moved wrote =>
              cases pushed
              exact .inr (.inl ⟨files, slot, file, moved, found, rewound_of_write wrote, rfl⟩)
  · next number =>
      split at pushed
      · cases pushed; exact .inl rfl
      · split at pushed
        · cases pushed; exact .inl rfl
        · split at pushed
          · cases pushed; exact .inl rfl
          · dsimp only at pushed
            split at pushed
            · cases pushed
            · split at pushed
              · cases pushed; exact .inr (.inr ⟨number, _, rfl, rfl⟩)
              · cases pushed; exact .inr (.inr ⟨number, _, rfl, rfl⟩)

theorem pull {state after : State} {port : Option Port} {limit : Nat} {answer : Except Errno Bytes}
    (pulled : state.pull port limit = some (after, answer)) : Undisturbed state after := by
  rcases pull_cases pulled with rfl | ⟨slot, file, moved, found, same, rfl⟩ | ⟨number, content, _, rfl⟩
  · exact refl _
  · exact setOpened found same
  · exact setPipe state number content

private theorem push {host : Host} {state after : State} {port : Option Port} {data : Bytes} {written : Written}
    (pushed : state.push host port data = some (after, written)) : Undisturbed state after := by
  rcases push_cases pushed with rfl | ⟨files, slot, file, moved, found, same, rfl⟩ | ⟨number, content, _, rfl⟩
  · exact refl _
  · have changed : Undisturbed state { state with files } := ofProcesses state files _ _ _ _ (Nat.le_refl _)
    exact changed.trans (setOpened found same)
  · exact setPipe state number content

/-! ## Signals and waiting -/

theorem strike (state : State) (index : Nat) (process : Process) (signal : Nat) :
    Undisturbed state (state.strike index process signal) := by
  unfold State.strike
  dsimp only
  generalize (if signal = continueSignal then { process with stopped := false } else process) = process
  split
  · exact setProcess state index _
  · exact setProcess state index _
  · split
    · exact setProcess state index _
    · split
      · exact setProcess state index _
      · exact finish state index _

private theorem deliver (host : Host) (state : State) (target signal : Nat) :
    Undisturbed state (state.deliver host target signal).1 := by
  unfold State.deliver
  split
  · exact refl state
  · split
    · split
      · exact refl state
      · exact ofProcesses state _ _ _ _ _ (Nat.le_refl _)
    · split
      · exact refl state
      · split
        · exact strike state _ _ _
        · exact refl state

private theorem await {host : Host} {state after : State} {index : Nat} {process : Process} {mode : WaitMode}
    {answer : WaitAnswer} (awaited : state.await host index process mode = some (after, answer)) :
    Undisturbed state after := by
  unfold State.await at awaited
  dsimp only at awaited
  split at awaited
  · cases awaited; exact setProcess state _ _
  · split at awaited
    · cases awaited; exact refl state
    · split at awaited
      · cases awaited; exact refl state
      · cases awaited

/-! ## Whole moves -/

private theorem moveProcess {host : Host} {state after : State} {index : Nat} {process : Process}
    (moved : state.moveProcess host index process = some after) : Undisturbed state after := by
  cases behaves_of_moveProcess moved with
  | exit => exact finish state index _
  | read _ pulled => exact (pull pulled).trans (modifyProcess _ index _)
  | wrote _ pushed => exact (push pushed).trans (modifyProcess _ index _)
  | wrotePart _ pushed => exact (push pushed).trans (modifyProcess _ index _)
  | refused _ pushed =>
      refine (push pushed).trans (Undisturbed.trans ?_ (modifyProcess _ index _))
      split
      · exact strike _ index process _
      · exact refl _
  | files => exact ofProcesses state _ _ _ _ _ (by simp)
  | adjust => exact setProcess state index _
  | attach => exact (addOpened state _).trans (setProcess _ index _)
  | pipe =>
      have widened : Undisturbed state { state with pipes := state.pipes ++ [Buffer.empty] } :=
        ofEnds ⟨rfl, rfl, rfl, SameEnds.sameOpened rfl⟩ rfl rfl rfl (by simp) (Nat.le_refl _)
      exact widened.trans (setProcess _ index _)
  | inspect => exact modifyProcess state index _
  | sought _ _ found => exact (seek found _).trans (modifyProcess _ index _)
  | unsought => exact modifyProcess state index _
  | fork _ _ advanced =>
      subst advanced
      exact ofProcesses state _ _ _ _ _ (by simp [State.setProcess])
  | wait _ awaited => exact (await awaited).trans (modifyProcess _ index _)
  | signal => exact (deliver host state _ _).trans (modifyProcess _ index _)
  | noted => exact setProcess state index _
  | asleep => exact setProcess state index _
  | awake => exact setProcess state index _

private theorem setCopier {state : State} {number : Nat} {copier changed : Copier} (captured complaints : Buffer)
    (found : state.copiers[number]? = some copier) (same : changed.course = copier.course) :
    Undisturbed state { state with copiers := state.copiers.set number changed, captured, complaints } := by
  refine ⟨⟨rfl, rfl, rfl, SameEnds.sameOpened rfl⟩, rfl, sameReapers rfl, ?_, Nat.le_refl _, Nat.le_refl _⟩
  apply List.ext_getElem?
  intro other
  by_cases here : number = other
  · subst here
    obtain ⟨bound, rfl⟩ := List.getElem?_eq_some_iff.mp found
    simp [bound, same]
  · simp [List.getElem?_set_ne here]

theorem moveCopier {host : Host} {state after : State} {number : Nat} {copier : Copier}
    (found : state.copiers[number]? = some copier) (moved : state.moveCopier host number copier = some after) :
    Undisturbed state after := by
  unfold State.moveCopier at moved
  split at moved
  · dsimp only at moved
    split at moved <;> cases moved <;> exact setCopier _ _ found rfl
  · split at moved
    · cases moved
    · split at moved
      · cases moved
      · next between answer pulled =>
          cases moved
          have before := pull pulled
          have course : (between.copiers.map Copier.course)[number]? = some copier.course := by
            rw [before.courses, List.getElem?_map, found, Option.map_some]
          rw [List.getElem?_map, Option.map_eq_some_iff] at course
          obtain ⟨same, foundBetween, sameCourse⟩ := course
          exact before.trans (setCopier _ _ foundBetween sameCourse.symm)

private theorem passTime {state after : State} (passed : state.passTime = some after) : Undisturbed state after := by
  obtain ⟨moment, _, rfl⟩ := Option.map_eq_some_iff.mp passed
  exact ofProcesses state _ _ _ _ _ (Nat.le_refl _)

end Undisturbed

/-! ## The threads after the last start -/

/-- A process that at most ended or was waited for. -/
structure Ages (earlier later : Process) : Prop where
  program : later.program = earlier.program
  stopped : later.stopped = earlier.stopped
  holdings : later.holdings = earlier.holdings
  running : later.isRunning = true → earlier.isRunning = true

theorem Ages.refl (process : Process) : Ages process process := ⟨rfl, rfl, rfl, id⟩

/-- The same processes, some of them at most ended or waited for. -/
structure Aged (before after : List Process) : Prop where
  length : after.length = before.length
  process : ∀ (index : Nat) (later : Process), after[index]? = some later →
    ∃ earlier, before[index]? = some earlier ∧ Ages earlier later

theorem Aged.refl (processes : List Process) : Aged processes processes where
  length := rfl
  process := fun _ later found => ⟨later, found, .refl later⟩

theorem aged_finish (state : State) (index : Nat) (status : ExitStatus) :
    Aged state.processes (state.finish index status).processes where
  length := by simp [State.finish]
  process := by
    intro other later found
    simp only [State.finish, List.getElem?_mapIdx, Option.map_eq_some_iff] at found
    obtain ⟨earlier, foundEarlier, rfl⟩ := found
    refine ⟨earlier, foundEarlier, ?_⟩
    split
    · exact ⟨rfl, rfl, rfl, fun running => nomatch running⟩
    · split
      · exact ⟨rfl, rfl, rfl, id⟩
      · split
        · exact ⟨rfl, rfl, rfl, id⟩
        · exact .refl earlier

private theorem aged_countWait (state : State) (child : Child) :
    Aged state.processes (state.countWait child).processes where
  length := by simp [State.countWait]
  process := by
    intro other later found
    obtain ⟨earlier, foundEarlier, rfl⟩ := Option.map_eq_some_iff.mp ((List.getElem?_modify ..).symm.trans found)
    refine ⟨earlier, foundEarlier, ?_⟩
    split
    · exact ⟨rfl, rfl, rfl, id⟩
    · exact .refl earlier

theorem act_report {host : Host} {state after : State} (acted : state.act host .report = some after) :
    ∃ log, after = { state with log } := by
  cases acted
  generalize state.conductor.statuses = statuses
  induction statuses generalizing state with
  | nil => exact ⟨state.log, rfl⟩
  | cons status statuses ih => exact ih

/-- Waiting for a copier changes nothing. -/
theorem act_join {host : Host} {state after : State} {number : Nat} (acted : state.act host (.join number) = some after) :
    after = state ∧ ∀ copier, state.copiers[number]? = some copier → copier.isDone = true := by
  simp only [State.act] at acted
  split at acted
  · next copier found =>
      split at acted
      · next done =>
          cases acted
          exact ⟨rfl, fun other same => Option.some.inj (found.symm.trans same) ▸ done⟩
      · cases acted
  · next missing =>
      cases acted
      exact ⟨rfl, fun copier found => nomatch missing.symm.trans found⟩

/-- What an action after the last start leaves of the thread that carries it out. -/
structure Follows (before after : Conductor) : Prop where
  agenda : after.agenda = before.agenda
  children : after.children = before.children
  firstCopier : after.firstCopier = before.firstCopier
  held : after.held = before.held ∨ after.held = none
  outcome : after.outcome = none → before.outcome = none

private theorem Follows.refl (conductor : Conductor) : Follows conductor conductor := ⟨rfl, rfl, rfl, .inl rfl, id⟩

/-- After the last start a thread ends processes, waits for them, writes to the log and
hands something back. -/
theorem act_eq {host : Host} {state after : State} {action : Action} (later : action.isStarting = false)
    (acted : state.act host action = some after) : ∃ processes log conductor,
      after = { state with processes, log, conductor } ∧ Aged state.processes processes ∧
        Follows state.conductor conductor := by
  cases action with
  | spawn stage first last => cases later
  | settle => cases later
  | kill child =>
      cases acted
      unfold State.kill
      split
      · split
        · exact ⟨_, _, _, rfl, aged_finish state _ _, .refl _⟩
        · exact ⟨_, _, _, rfl, .refl _, .refl _⟩
      · exact ⟨_, _, _, rfl, .refl _, .refl _⟩
  | reap child =>
      obtain ⟨status, _, rfl⟩ := Option.map_eq_some_iff.mp acted
      exact ⟨_, _, _, rfl, aged_countWait state child, .refl _⟩
  | wait child =>
      obtain ⟨status, _, rfl⟩ := Option.map_eq_some_iff.mp acted
      exact ⟨_, _, _, rfl, aged_countWait state child, ⟨rfl, rfl, rfl, .inl rfl, id⟩⟩
  | join copier =>
      obtain ⟨rfl, _⟩ := act_join acted
      exact ⟨_, _, _, rfl, .refl _, .refl _⟩
  | report =>
      obtain ⟨log, rfl⟩ := act_report acted
      exact ⟨_, _, _, rfl, .refl _, .refl _⟩
  | finish =>
      cases acted
      exact ⟨_, _, _, rfl, .refl _, ⟨rfl, rfl, rfl, .inr rfl, fun pending => nomatch pending⟩⟩
  | fail error =>
      cases acted
      exact ⟨_, _, _, rfl, .refl _, ⟨rfl, rfl, rfl, .inr rfl, fun pending => nomatch pending⟩⟩

theorem Follows.of_act {host : Host} {state after : State} {action : Action} (later : action.isStarting = false)
    (acted : state.act host action = some after) : Follows state.conductor after.conductor := by
  obtain ⟨_, _, _, rfl, _, follows⟩ := act_eq later acted
  exact follows

theorem Undisturbed.act {host : Host} {state after : State} {action : Action} (later : action.isStarting = false)
    (acted : state.act host action = some after) : Undisturbed state { after with conductor := state.conductor } := by
  obtain ⟨processes, log, conductor, rfl, aged, _⟩ := act_eq later acted
  exact ofProcesses state _ processes log _ _ (Nat.le_of_eq aged.length.symm)

/-- The threads of earlier lines have started all of their stages. -/
def OthersStarted (state : State) : Prop :=
  ∀ reaper ∈ state.reapers, ∀ action ∈ reaper.agenda, action.isStarting = false

theorem OthersStarted.kept {before after : State} (started : before.OthersStarted)
    (kept : ∀ reaper ∈ after.reapers, ∃ earlier ∈ before.reapers, reaper.agenda ⊆ earlier.agenda) :
    after.OthersStarted := by
  intro reaper member action found
  obtain ⟨earlier, earlierMember, subset⟩ := kept reaper member
  exact started earlier earlierMember action (subset found)

namespace Undisturbed

theorem othersStarted {before after : State} (undisturbed : Undisturbed before after)
    (started : before.OthersStarted) : after.OthersStarted :=
  started.kept undisturbed.reapers

private theorem reap {host : Host} {state after : State} {number : Nat} (started : state.OthersStarted)
    (reaped : state.reap host number = some after) : Undisturbed state after := by
  unfold State.reap at reaped
  split at reaped
  · cases reaped
  · next reaper found =>
      have member := List.mem_of_getElem? found
      obtain ⟨acted, conducted, rfl⟩ := Option.map_eq_some_iff.mp reaped
      unfold State.conduct at conducted
      dsimp only at conducted
      split at conducted
      · cases conducted
      · next action agenda planned =>
          have later := started reaper member action (by simp [planned])
          have undisturbed := act later conducted
          have follows := Follows.of_act later conducted
          refine { undisturbed with conductor := rfl, reapers := ?_ }
          intro other otherMember
          rcases List.mem_or_eq_of_mem_set otherMember with before | rfl
          · exact ⟨other, before, fun _ => id⟩
          · refine ⟨reaper, member, ?_⟩
            rw [follows.agenda, planned]
            exact List.subset_cons_self action agenda

/-- A move of anybody but the shell's own thread disturbs nothing. -/
theorem move {host : Host} {state after : State} {actor : Actor} (started : state.OthersStarted)
    (other : actor ≠ .conductor) (moved : state.move host actor = some after) : Undisturbed state after := by
  unfold State.move at moved
  split at moved
  · cases moved
  · cases actor with
    | conductor => exact absurd rfl other
    | reaper number => exact reap started moved
    | process index =>
        simp only [State.turn] at moved
        split at moved
        · split at moved
          · exact moveProcess moved
          · cases moved
        · cases moved
    | copier number =>
        simp only [State.turn] at moved
        split at moved
        · next found => exact moveCopier found moved
        · cases moved
    | clock => exact passTime moved

end Undisturbed

end State

end Pipeline

end PipeShell
