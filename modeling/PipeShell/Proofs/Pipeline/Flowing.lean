import PipeShell.Proofs.Pipeline.Carrying

/-! # A row of stages at work

Every process of a row is as far as the ledger says, and so are the pipes, the files and
the drains between the processes. Each move keeps this, whoever makes it. -/

set_option autoImplicit false

namespace PipeShell.Pipeline

open PipeShell.System

/-! ## Reading and writing pipes -/

namespace State

variable {host : Host} {state after : State} {pipe : Nat} {content : Buffer}

private theorem size_eq_zero {buffer : Buffer} : buffer.size = 0 ↔ buffer.toList = [] := by
  rw [← buffer.length_toList, List.length_eq_zero_iff]

/-- Whoever reads a pipe gets what is in it, or finds that nobody writes it any more. -/
theorem pull_reader_cases {limit : Nat} {answer : Except Errno Bytes} (found : state.pipes[pipe]? = some content)
    (pulled : state.pull (some (.reader pipe)) limit = some (after, answer)) :
    (content.toList = [] ∧ state.hasWriter pipe = false ∧ after = state ∧ answer = .ok []) ∨
      (content.toList ≠ [] ∧ after = state.setPipe pipe (content.pull limit).2 ∧
        answer = .ok (content.pull limit).1) := by
  simp only [pull, found, size_eq_zero] at pulled
  split at pulled
  · next empty =>
      split at pulled
      · cases pulled
      · next closed =>
          cases pulled
          exact .inl ⟨empty, by simpa using closed, rfl, rfl⟩
  · next some =>
      cases pulled
      exact .inr ⟨some, rfl, rfl⟩

/-- Whoever writes a pipe that is read gets rid of some bytes at its front. -/
theorem push_writer_cases {data : Bytes} {written : Written} (found : state.pipes[pipe]? = some content)
    (read : data ≠ [] → state.hasReader pipe = true)
    (pushed : state.push host (some (.writer pipe)) data = some (after, written)) :
    (data = [] ∧ after = state ∧ written = .all) ∨
      ∃ front back, data = front ++ back ∧ after = state.setPipe pipe (content.push front) ∧
        (back = [] ∧ written = .all ∨ back.length < data.length ∧ written = .part back) := by
  simp only [push, found, List.isEmpty_iff] at pushed
  split at pushed
  · next nothing =>
      cases pushed
      exact .inl ⟨nothing, rfl, rfl⟩
  · next some =>
      rw [read some] at pushed
      simp only [Bool.not_true, Bool.false_eq_true, if_false] at pushed
      split at pushed
      · cases pushed
      · next room =>
          refine .inr ?_
          split at pushed
          · cases pushed
            exact ⟨data, [], (List.append_nil data).symm, rfl, .inl ⟨rfl, rfl⟩⟩
          · cases pushed
            refine ⟨data.take (host.capacity - content.size), data.drop (host.capacity - content.size),
              (List.take_append_drop _ data).symm, rfl, .inr ⟨?_, rfl⟩⟩
            rw [List.length_drop]
            omega

/-- Where all processes were started by the shell, nobody takes notice of one that ends. -/
theorem finish_eq {index : Nat} {process : Process} (found : state.processes[index]? = some process)
    (parents : ∀ (other : Nat) (process : Process), state.processes[other]? = some process → process.parent = .shell)
    (status : ExitStatus) :
    state.finish index status =
      { state with processes := state.processes.set index { process with status := some status } } := by
  have changed : (state.finish index status).processes =
      state.processes.set index { process with status := some status } := by
    apply List.ext_getElem?
    intro other
    rw [State.finish, List.getElem?_mapIdx, List.getElem?_set, found]
    have bound := (List.getElem?_eq_some_iff.mp found).1
    by_cases here : index = other
    · subst here
      rw [found, if_pos rfl, if_pos bound]
      simp
    · rw [if_neg here]
      cases foundOther : state.processes[other]? with
      | none => rfl
      | some process' =>
          simp [Ne.symm here, parents index process found, parents other process' foundOther]
  rw [← changed]
  rfl

end State

/-! ## Processes -/

/-- The process of a stage is as far as the ledger says. -/
structure Works (plan : Plan) (ledger : Ledger) (index : Nat) (process : Process) : Prop where
  shape : ∃ program status waits,
    process = { program, holdings := plan.row.holdings index, status, waits }
  running : process.status = none → process.program.Yields (ledger.unread index) (ledger.due index)
  ended : ∀ status, process.status = some status →
    status = (ledger.due index).status ∧ ledger.unread index = [] ∧ ∀ sink, (ledger.due index).stream sink = []
  status : (ledger.due index).status = (plan.product index).status

theorem Works.holdings_eq {plan : Plan} {ledger : Ledger} {index : Nat} {process : Process}
    (works : Works plan ledger index process) : process.holdings = plan.row.holdings index := by
  obtain ⟨_, _, _, rfl⟩ := works.shape
  rfl

/-- Only what a ledger says about the stage itself matters. -/
theorem Works.of_same {plan : Plan} {ledger later : Ledger} {index : Nat} {process : Process}
    (works : Works plan ledger index process) (unread : later.unread index = ledger.unread index)
    (due : later.due index = ledger.due index) : Works plan later index process where
  shape := works.shape
  running := by
    rw [unread, due]
    exact works.running
  ended := by
    rw [unread, due]
    exact works.ended
  status := by
    rw [due]
    exact works.status

/-- The first `count` stages of a row are at work, and the others are not started yet. -/
structure Flows (plan : Plan) (ledger : Ledger) (count : Nat) (state : State) : Prop
    extends Carries plan ledger count state where
  killed : state.killed = none
  alone : ∀ reaper ∈ state.reapers, reaper.agenda = []
  ends : plan.row.Ends state
  bounded : count ≤ plan.row.last + 1
  processes : state.processes.length = count
  works : ∀ (index : Nat) (process : Process), state.processes[index]? = some process → Works plan ledger index process
  held : state.conductor.held = plan.row.held count
  foreground : state.background = false

/-- A process goes on as a smaller program, or it ends. -/
def Process.Advances (earlier later : Process) : Prop :=
  earlier.isRunning = true ∧ (later.isRunning = true → Program.Next later.program earlier.program)

/-- One of the processes advances, and the shell's thread does nothing. -/
def State.Advances (before after : State) : Prop :=
  after.conductor = before.conductor ∧ ∃ (index : Nat) (earlier later : Process),
    before.processes[index]? = some earlier ∧ after.processes = before.processes.set index later ∧ earlier.Advances later

/-- How much a copier still has to do until it reads the next bytes, or is done. -/
def Copier.work (copier : Copier) : Nat :=
  copier.pending.length +
    match copier.drain with
    | some drain => if drain.unfinished = [] then 1 else 4
    | none => 0

/-- One of the copiers goes on: it takes something out of a pipe, or has less to do. -/
def State.Drains (before after : State) : Prop :=
  after.conductor = before.conductor ∧ after.processes = before.processes ∧
    ∃ (number : Nat) (copier changed : Copier), before.copiers[number]? = some copier ∧
      after.copiers = before.copiers.set number changed ∧
      (after.pipes = before.pipes ∧ changed.work < copier.work ∨
        ∃ (pipe : Nat) (content rest : Buffer), before.pipes[pipe]? = some content ∧
          after.pipes = before.pipes.set pipe rest ∧ rest.size < content.size)

namespace Flows

variable {host : Host} {plan : Plan} {ledger : Ledger} {count : Nat} {state after : State}

theorem found_of_lt (flows : Flows plan ledger count state) {index : Nat} (bound : index < count) :
    ∃ process, state.processes[index]? = some process ∧ Works plan ledger index process := by
  have found := List.getElem?_eq_getElem (flows.processes.symm ▸ bound)
  exact ⟨_, found, flows.works index _ found⟩

theorem lt_of_found (flows : Flows plan ledger count state) {index : Nat} {process : Process}
    (found : state.processes[index]? = some process) : index < count :=
  flows.processes ▸ (List.getElem?_eq_some_iff.mp found).1

/-- A stage whose stream nobody holds open any more has written all of it. -/
theorem dry (flows : Flows plan ledger count state) {index : Nat} {sink : Sink} (started : index < count)
    (captured : plan.row.exit index sink = none) (closed : state.hasWriter (plan.row.pipe index sink) = false) :
    (ledger.due index).stream sink = [] := by
  obtain ⟨process, found, works⟩ := flows.found_of_lt started
  cases ended : process.status with
  | some status => exact (works.ended status ended).2.2 sink
  | none =>
      -- A process that runs holds its own ends of pipes.
      have writes : process.writes (plan.row.pipe index sink) = true := by
        rw [Process.writes, Process.isRunning, ended, works.holdings_eq,
          Row.writes_iff.mpr ⟨sink, Row.port_of_captured captured⟩]
        rfl
      have writer : state.hasWriter (plan.row.pipe index sink) = true :=
        List.any_eq_true.mpr ⟨process, List.mem_of_getElem? found, writes⟩
      cases closed.symm.trans writer

/-- As long as something of a stream is still to come, somebody reads it. -/
theorem read_of_coming (flows : Flows plan ledger count state) {index : Nat} {sink : Sink} (started : index < count)
    (captured : plan.row.exit index sink = none) (nonempty : ledger.coming plan.row state index sink ≠ []) :
    state.hasReader (plan.row.pipe index sink) = true := by
  simp only [State.hasReader, Bool.or_eq_true, beq_iff_eq, List.any_eq_true]
  by_cases drained : (index, sink) ∈ plan.row.drained count
  · obtain ⟨number, copier, found, pipe, collects⟩ := flows.exists_copier drained
    refine .inr ⟨copier, List.mem_of_getElem? found, ?_⟩
    cases going : copier.drain with
    | none => exact absurd (collects.ended going) nonempty
    | some drain => simp [pipe, Copier.isDone, going]
  · -- Only the output of an inner stage is not drained, and the next stage reads it.
    have inner : sink = .output ∧ index < plan.row.last := by
      have between : ¬(sink = .error ∨ index = plan.row.last) := by
        intro leads
        exact drained (Row.mem_drained.mpr ⟨started, leads, captured⟩)
      obtain ⟨noError, notLast⟩ := not_or.mp between
      have bounded := flows.bounded
      cases sink with
      | error => exact absurd rfl noError
      | output => exact ⟨rfl, by omega⟩
    obtain ⟨rfl, inner⟩ := inner
    refine .inl ?_
    rcases Nat.lt_or_eq_of_le (Nat.succ_le_of_lt started) with next | last
    · obtain ⟨process, found, works⟩ := flows.found_of_lt next
      refine .inr ⟨process, List.mem_of_getElem? found, ?_⟩
      cases ended : process.status with
      | some status =>
          have linked := flows.linked index inner
          rw [(works.ended status ended).2.1] at linked
          exact absurd linked nonempty
      | none =>
          rw [Process.reads, Process.isRunning, ended, works.holdings_eq, Row.reads_iff.mpr rfl]
          rfl
    · refine .inl ?_
      rw [flows.held, ← last, Row.held, if_pos inner]

/-! ## What one process does -/

/-- The process of one stage changes, and the others are as far as they were. -/
theorem setProcess (flows : Flows plan ledger count state) {between : State} {later : Ledger}
    (carries : Carries plan later count between) (same : ∃ files opened pipes, between = { state with files, opened, pipes })
    {index : Nat} {changed : Process} (works : Works plan later index changed)
    (others : ∀ other, other ≠ index → later.unread other = ledger.unread other ∧ later.due other = ledger.due other) :
    Flows plan later count { between with processes := between.processes.set index changed } := by
  obtain ⟨files, opened, pipes, rfl⟩ := same
  constructor
  case toCarries => exact { carries with }
  case killed => exact flows.killed
  case alone => exact flows.alone
  case ends => exact ⟨flows.ends.input, flows.ends.output, flows.ends.error⟩
  case bounded => exact flows.bounded
  case processes =>
    rw [List.length_set]
    exact flows.processes
  case works =>
    intro other process found
    dsimp only at found
    by_cases here : index = other
    · subst here
      obtain ⟨_, rfl⟩ : _ ∧ changed = process := by simpa [List.getElem?_set] using found
      exact works
    · rw [List.getElem?_set_ne here] at found
      obtain ⟨unread, due⟩ := others other (Ne.symm here)
      exact (flows.works other process found).of_same unread due
  case held => exact flows.held
  case foreground => exact flows.foreground

section Moving

variable {index : Nat} {process : Process}

/-- A process goes on after it has read or written. -/
theorem goOn (flows : Flows plan ledger count state) {between : State} {later : Ledger}
    (carries : Carries plan later count between) (same : ∃ files opened pipes, between = { state with files, opened, pipes })
    (found : state.processes[index]? = some process) (running : process.status = none)
    {program : Program} (yields : program.Yields (later.unread index) (later.due index))
    (status : (later.due index).status = (ledger.due index).status)
    (others : ∀ other, other ≠ index → later.unread other = ledger.unread other ∧ later.due other = ledger.due other)
    (next : Program.Next program process.program) :
    Flows plan later count
        { between with processes := between.processes.modify index fun process => { process with program } } ∧
      state.Advances
        { between with processes := between.processes.modify index fun process => { process with program } } := by
  have works := flows.works index process found
  have worksLater : Works plan later index { process with program } := by
    constructor
    case shape =>
      obtain ⟨_, status, waits, rfl⟩ := works.shape
      exact ⟨program, status, waits, rfl⟩
    case running => exact fun _ => yields
    case ended => exact fun code ended => nomatch running.symm.trans ended
    case status => exact status.trans works.status
  have flowsLater := flows.setProcess carries same worksLater others
  obtain ⟨files, opened, pipes, rfl⟩ := same
  have changed : state.processes.modify index (fun process => { process with program }) =
      state.processes.set index { process with program } := by
    rw [List.modify_eq_set_getElem?, found]
    rfl
  rw [changed]
  refine ⟨flowsLater, rfl, index, process, { process with program }, found, rfl, ?_, fun _ => next⟩
  rw [Process.isRunning, running]
  rfl

/-- A process ends when it has read and written everything. -/
theorem exit (flows : Flows plan ledger count state) (found : state.processes[index]? = some process)
    (running : process.isRunning = true) {status : ExitStatus} (unread : ledger.unread index = [])
    (due : ledger.due index = ⟨[], [], status⟩) :
    Flows plan ledger count (state.finish index status) ∧ state.Advances (state.finish index status) := by
  have works := flows.works index process found
  have worksLater : Works plan ledger index { process with status := some status } := by
    constructor
    case shape =>
      obtain ⟨program, _, waits, rfl⟩ := works.shape
      exact ⟨program, some status, waits, rfl⟩
    case running => exact fun none => nomatch none
    case ended =>
      intro code same
      obtain rfl := Option.some.inj same
      rw [due]
      refine ⟨rfl, unread, fun sink => ?_⟩
      cases sink <;> rfl
    case status => exact works.status
  have parents (other : Nat) (process : Process) (found : state.processes[other]? = some process) :
      process.parent = .shell := by
    obtain ⟨_, _, _, rfl⟩ := (flows.works other process found).shape
    rfl
  rw [State.finish_eq found parents status]
  exact ⟨flows.setProcess flows.toCarries ⟨_, _, _, rfl⟩ worksLater fun _ _ => ⟨rfl, rfl⟩, rfl, index, process, _, found,
    rfl, running, fun ended => nomatch ended⟩

end Moving

/-- What a process gets when it reads. -/
theorem pull (flows : Flows plan ledger count state) (proper : plan.Proper) {index : Nat} (started : index < count)
    {limit : Nat} (positive : 0 < limit) {between : State} {answer : Except Errno Bytes}
    (pulled : state.pull (some (plan.row.inlet index)) limit = some (between, answer)) :
    ∃ data rest, answer = .ok data ∧ ledger.unread index = data ++ rest ∧ data.length ≤ limit ∧
      (data = [] → rest = []) ∧
      Carries plan { ledger with unread := Function.update ledger.unread index rest } count between ∧
      ∃ files opened pipes, between = { state with files, opened, pipes } := by
  cases index with
  | zero =>
      obtain ⟨file, found, supplies, node, remaining⟩ := flows.source
      obtain ⟨data, later, read, suppliesLater, nodeLater, split, short, empty⟩ := supplies.read state.files limit
      simp only [Row.inlet, State.pull, found, read, Option.some.injEq, Prod.mk.injEq] at pulled
      obtain ⟨rfl, rfl⟩ := pulled
      refine ⟨data, state.files.remaining later, rfl, remaining ▸ split, short, empty positive, ?_, _, _, _, rfl⟩
      exact flows.supply proper started found suppliesLater nodeLater
  | succ index =>
      have inner : index < plan.row.last := by
        have := flows.bounded
        omega
      have made := flows.made index .output (by omega) (Row.exit_inner inner)
      have found := List.getElem?_eq_getElem made
      have linked := flows.linked index inner
      rcases State.pull_reader_cases found pulled with ⟨empty, closed, rfl, rfl⟩ | ⟨some, rfl, rfl⟩
      · -- The stage before has ended, so there is nothing left.
        have nothing : ledger.unread (index + 1) = [] := by
          rw [← linked, Ledger.coming, State.content_of_some found, empty,
            flows.dry (by omega) (Row.exit_inner inner) closed]
          rfl
        have same : Function.update ledger.unread (index + 1) [] = ledger.unread := by
          rw [← nothing]
          exact Function.update_eq_self _ _
        refine ⟨[], [], rfl, nothing, Nat.zero_le _, fun _ => rfl, ?_, _, _, _, rfl⟩
        rw [same]
        exact flows.toCarries
      · obtain ⟨unread, carries⟩ := flows.draw inner started found (Buffer.pull_append _ limit).symm
        refine ⟨_, _, rfl, unread, List.length_take_le limit _, ?_, carries, _, _, _, rfl⟩
        intro nothing
        rcases List.take_eq_nil_iff.mp nothing with zero | empty
        · omega
        · exact absurd empty some

/-- What becomes of bytes that a process writes. -/
theorem push (flows : Flows plan ledger count state) (proper : plan.Proper) {index : Nat} (started : index < count)
    {sink : Sink} {data : Bytes} {product : Product} (due : ledger.due index = product.before sink data)
    {between : State} {written : State.Written}
    (pushed : state.push host (some (plan.row.port index sink)) data = some (between, written)) :
    ∃ front back sent, data = front ++ back ∧
      (back = [] ∧ written = .all ∨ back.length < data.length ∧ written = .part back) ∧
      Carries plan
        { ledger with due := Function.update ledger.due index (product.before sink back), sent } count between ∧
      ∃ files opened pipes, between = { state with files, opened, pipes } := by
  cases leads : plan.row.exit index sink with
  | some slot =>
      rw [Row.port_of_exit leads] at pushed
      obtain ⟨last, target⟩ : index = plan.row.last ∧ plan.row.target sink = some slot := by
        simpa [Row.exit] using leads
      subst last
      obtain ⟨file, number, found, takes, appends, whole⟩ := flows.target sink slot target
      obtain ⟨later, wrote, appendsLater⟩ := appends.write data
      simp only [State.push, found, wrote, Option.some.injEq, Prod.mk.injEq] at pushed
      obtain ⟨rfl, rfl⟩ := pushed
      refine ⟨data, [], Function.update ledger.sent sink (ledger.sent sink ++ data), (List.append_nil data).symm,
        .inl ⟨rfl, rfl⟩, ?_, _, _, _, rfl⟩
      rw [Product.before_nil]
      exact flows.send proper started target takes (List.getElem?_eq_some_iff.mp found).1 appendsLater due
  | none =>
      rw [Row.port_of_captured leads] at pushed
      have found := List.getElem?_eq_getElem (flows.made index sink started leads)
      have read : data ≠ [] → state.hasReader (plan.row.pipe index sink) = true := by
        intro some
        apply flows.read_of_coming started leads
        rw [Ledger.coming, due, Product.stream_before, if_pos rfl]
        simp [some]
      rcases State.push_writer_cases found read pushed with ⟨rfl, rfl, rfl⟩ | ⟨front, back, rfl, rfl, rest⟩
      · have same : Function.update ledger.due index (product.before sink []) = ledger.due := by
          rw [← due]
          exact Function.update_eq_self _ _
        refine ⟨[], [], ledger.sent, rfl, .inl ⟨rfl, rfl⟩, ?_, _, _, _, rfl⟩
        rw [same]
        exact flows.toCarries
      · refine ⟨front, back, ledger.sent, rfl, rest, ?_, _, _, _, rfl⟩
        rw [Product.before_append] at due
        exact flows.fill started leads found due

/-- Whatever a process does, the stages are at work as before. -/
theorem moveProcess (flows : Flows plan ledger count state) (proper : plan.Proper) {index : Nat} {process : Process}
    (found : state.processes[index]? = some process) (running : process.isRunning = true)
    (moved : state.moveProcess host index process = some after) :
    ∃ later, Flows plan later count after ∧ state.Advances after := by
  have started := flows.lt_of_found found
  have works := flows.works index process found
  have live : process.status = none := Option.isNone_iff_eq_none.mp running
  have yields := works.running live
  have input : process.holdings.port? Program.inputDescriptor = some (plan.row.inlet index) :=
    works.holdings_eq ▸ Row.port?_input
  have output (sink : Sink) : process.holdings.port? sink.descriptor = some (plan.row.port index sink) :=
    works.holdings_eq ▸ Row.port?_descriptor
  generalize unread : ledger.unread index = rest at yields
  generalize due : ledger.due index = product at yields
  cases State.behaves_of_moveProcess moved with
  | exit behaviour =>
      rw [behaviour] at yields
      cases yields with
      | exit => exact ⟨ledger, flows.exit found running unread due⟩
  | read behaviour pulled =>
      rw [behaviour] at yields
      cases yields with
      | read positive continue_ =>
          rw [input] at pulled
          obtain ⟨data, left, rfl, split, short, empty, carries, same⟩ := flows.pull proper started positive pulled
          have goesOn := continue_ data left (unread ▸ split) short empty
          refine ⟨_, flows.goOn carries same found live ?_ rfl ?_ ?_⟩
          · simpa [due] using goesOn
          · intro other different
            exact ⟨Function.update_of_ne different _ _, rfl⟩
          · rw [behaviour]
            exact .read _
  | wrote behaviour pushed =>
      rw [behaviour] at yields
      cases yields with
      | @write sink _ _ _ product continue_ =>
          rw [output sink] at pushed
          obtain ⟨front, back, sent, rfl, ⟨rfl, _⟩ | ⟨_, part⟩, carries, same⟩ := flows.push proper started due pushed
          · rw [Product.before_nil] at carries
            refine ⟨_, flows.goOn carries same found live ?_ ?_ ?_ ?_⟩
            · simpa [unread] using continue_
            · simp [due]
            · intro other different
              exact ⟨rfl, Function.update_of_ne different _ _⟩
            · rw [behaviour]
              exact .write none
          · cases part
  | @wrotePart _ _ more next _ behaviour pushed =>
      rw [behaviour] at yields
      cases yields with
      | @write sink _ _ _ product continue_ =>
          rw [output sink] at pushed
          obtain ⟨front, back, sent, split, ⟨_, all⟩ | ⟨shorter, part⟩, carries, same⟩ :=
            flows.push proper started due pushed
          · cases all
          · cases part
            refine ⟨_, flows.goOn carries same found live ?_ ?_ ?_ ?_⟩
            · have goesOn : Program.Yields (.write sink.descriptor more next) (ledger.unread index)
                  (product.before sink more) := .write (unread ▸ continue_)
              simpa using goesOn
            · simp [due]
            · intro other different
              exact ⟨rfl, Function.update_of_ne different _ _⟩
            · rw [behaviour]
              exact .rest shorter
  | refused behaviour pushed =>
      rw [behaviour] at yields
      cases yields with
      | @write sink =>
          rw [output sink] at pushed
          obtain ⟨_, _, _, _, ⟨_, all⟩ | ⟨_, part⟩, _⟩ := flows.push proper started due pushed
          · cases all
          · cases part
  | files behaviour =>
      rw [behaviour] at yields
      cases yields with
      | files unchanged continue_ =>
          have same := unchanged { state.files with descriptors := state.descriptorsOf process }
          rw [same]
          refine ⟨ledger, flows.goOn flows.toCarries ⟨_, _, _, rfl⟩ found live ?_ rfl (fun _ _ => ⟨rfl, rfl⟩) ?_⟩
          · rw [unread, due]
            exact continue_ _
          · rw [behaviour]
            exact .files _
  | adjust behaviour | attach behaviour | pipe behaviour | inspect behaviour | sought behaviour | unsought behaviour
  | fork behaviour | wait behaviour | signal behaviour | noted behaviour | asleep behaviour | awake behaviour =>
      rw [behaviour] at yields
      cases yields

/-! ## What one copier does -/

private theorem place_of_found (flows : Flows plan ledger count state) {number : Nat} {copier : Copier}
    (found : state.copiers[number]? = some copier) : ∃ stream, (plan.row.drained count)[number]? = some stream := by
  have bound := (List.getElem?_eq_some_iff.mp found).1
  rw [flows.copiers] at bound
  exact ⟨_, List.getElem?_eq_getElem bound⟩

/-- A copier that reads at the end of its stream has at most one more line to deliver. -/
theorem work_close (host : Host) {copier : Copier} (planned : copier.pending = []) {drain : Drain}
    (going : copier.drain = some drain) :
    { copier with
      pending := (drain.receive []).1.flatMap host.deliveries
      drain := (drain.receive []).2 }.work < copier.work := by
  have short (line : Bytes) : (host.deliveries line).length ≤ 2 := by
    simp only [Host.deliveries]
    split
    · simp
    · split <;> simp
  by_cases nothing : drain.unfinished = []
  · simp [Copier.work, planned, going, Drain.receive, nothing]
  · have line := short drain.unfinished
    simp only [Copier.work, planned, going, Drain.receive, List.isEmpty_iff, nothing, if_true, if_false,
      List.flatMap_singleton, List.length_nil]
    omega

/-- The rest of the state, if nothing changes but what copiers work on. -/
theorem copied (flows : Flows plan ledger count state) {later : Ledger} {pipes : List Buffer} {copiers : List Copier}
    {captured complaints : Buffer}
    (carries : Carries plan later count { state with pipes, copiers, captured, complaints })
    (unread : later.unread = ledger.unread) (due : later.due = ledger.due) :
    Flows plan later count { state with pipes, copiers, captured, complaints } where
  toCarries := carries
  killed := flows.killed
  alone := flows.alone
  ends := ⟨flows.ends.input, flows.ends.output, flows.ends.error⟩
  bounded := flows.bounded
  processes := flows.processes
  works := fun index process found => (flows.works index process found).of_same (congrFun unread index) (congrFun due index)
  held := flows.held
  foreground := flows.foreground

section Copying

variable {number : Nat} {copier : Copier} {stream : Nat × Sink}

/-- A copier delivers what it still has to deliver. -/
theorem deliverPiece (flows : Flows plan ledger count state) (found : state.copiers[number]? = some copier)
    (place : (plan.row.drained count)[number]? = some stream) {piece : Bytes} {pending : List Bytes}
    (planned : copier.pending = piece :: pending) (moved : state.moveCopier host number copier = some after) :
    ∃ later, Flows plan later count after ∧ state.Drains after := by
  obtain ⟨course, _⟩ := flows.copier number copier stream found place
  have sink : copier.sink = some stream.2 := congrArg Prod.snd course
  have less : { copier with pending }.work < copier.work := by
    simp only [Copier.work, planned, List.length_cons]
    omega
  -- Both sinks take the piece in the same way.
  obtain ⟨captured, complaints, rfl, taken⟩ : ∃ captured complaints,
      after = { state with copiers := state.copiers.set number { copier with pending }, captured, complaints } ∧
      ∀ sink, { state with captured, complaints }.taken sink =
        state.taken sink ++ if copier.sink = some sink then piece else [] := by
    simp only [State.moveCopier, planned] at moved
    split at moved
    · next leads =>
        cases moved
        refine ⟨_, _, rfl, fun other => ?_⟩
        cases other <;> simp [State.taken, leads]
    · next leads =>
        cases moved
        refine ⟨_, _, rfl, fun other => ?_⟩
        cases other <;> simp [State.taken, leads]
    · next leads => cases sink.symm.trans leads
  have carries := flows.deliver found place planned taken
  exact ⟨_, flows.copied carries rfl rfl, rfl, rfl, number, copier, _, found, rfl, .inl ⟨rfl, less⟩⟩

/-- A copier reads, if there is something or if nothing more will come. -/
theorem readPipe (flows : Flows plan ledger count state) (found : state.copiers[number]? = some copier)
    (place : (plan.row.drained count)[number]? = some stream) (planned : copier.pending = []) {drain : Drain}
    (going : copier.drain = some drain) (moved : state.moveCopier host number copier = some after) :
    ∃ later, Flows plan later count after ∧ state.Drains after := by
  obtain ⟨course, _⟩ := flows.copier number copier stream found place
  obtain ⟨started, _, captured⟩ := Row.mem_drained.mp (List.mem_of_getElem? place)
  have pipe : copier.pipe = plan.row.pipe stream.1 stream.2 := congrArg Prod.fst course
  have made := flows.made stream.1 stream.2 started captured
  obtain ⟨content, foundPipe⟩ : ∃ content, state.pipes[copier.pipe]? = some content :=
    ⟨_, List.getElem?_eq_getElem (pipe ▸ made)⟩
  simp only [State.moveCopier, planned, going] at moved
  split at moved
  · cases moved
  · next between answer pulled =>
      cases moved
      rcases State.pull_reader_cases foundPipe pulled with ⟨empty, closed, rfl, rfl⟩ | ⟨some, rfl, rfl⟩
      · -- Nobody writes the stream any more.
        have nothing : ledger.coming plan.row between stream.1 stream.2 = [] := by
          rw [pipe] at closed
          rw [Ledger.coming, ← pipe, State.content_of_some foundPipe, empty, flows.dry started captured closed]
          rfl
        have carries := @Carries.close _ _ _ _ host _ _ _ flows.toCarries found place planned _ going nothing
        exact ⟨ledger, flows.copied carries rfl rfl, rfl, rfl, number, copier, _, found, rfl,
          .inl ⟨rfl, work_close host planned going⟩⟩
      · have data : (content.pull readLimit).1 ≠ [] := by
          intro nothing
          rcases List.take_eq_nil_iff.mp nothing with zero | empty
          · cases zero
          · exact some empty
        have split := content.pull_append readLimit
        have less : (content.pull readLimit).2.size < content.size := by
          rw [← Buffer.length_toList, ← Buffer.length_toList, ← split, List.length_append]
          have := List.length_pos_iff.mpr data
          omega
        have carries := @Carries.listen _ _ _ _ host _ _ _ flows.toCarries found place planned _ going _ _ _ foundPipe
          split.symm data
        exact ⟨ledger, flows.copied carries rfl rfl, rfl, rfl, number, copier, _, found, rfl,
          .inr ⟨_, _, _, foundPipe, rfl, less⟩⟩

/-- Whatever a copier does, the stages are at work as before. -/
theorem moveCopier (flows : Flows plan ledger count state) (found : state.copiers[number]? = some copier)
    (moved : state.moveCopier host number copier = some after) :
    ∃ later, Flows plan later count after ∧ state.Drains after := by
  obtain ⟨stream, place⟩ := flows.place_of_found found
  cases planned : copier.pending with
  | cons piece pending => exact flows.deliverPiece found place planned moved
  | nil =>
      cases going : copier.drain with
      | some drain => exact flows.readPipe found place planned going moved
      | none =>
          simp only [State.moveCopier, planned, going] at moved
          cases moved

end Copying

end Flows

end PipeShell.Pipeline
