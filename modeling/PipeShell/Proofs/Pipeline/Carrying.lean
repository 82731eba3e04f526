import PipeShell.Proofs.Drain.Output
import PipeShell.Proofs.Drain.Sharing
import PipeShell.Proofs.Pipeline.Remains
import PipeShell.Proofs.Pipeline.Row
import PipeShell.Proofs.System.Opening

/-! # What a row of stages carries

Of every stream of a row it can be told in advance what it will carry in all. A ledger
tells how much of it is still to come; it is kept while the processes and the drains read
and write. -/

set_option autoImplicit false

namespace PipeShell.Pipeline

open PipeShell.System

/-- What a row of stages is to do. -/
structure Plan where
  row : Row
  /-- The file system before the first stage is started. -/
  files : FileSystem
  /-- What the first stage reads. -/
  source : Node
  /-- The files that take streams of the last stage. -/
  number : Sink → Option Nat
  /-- What every stage reads in all. -/
  input : Nat → Bytes
  /-- What every stage makes of it. -/
  product : Nat → Product

/-- How far the stages have come. -/
structure Ledger where
  /-- What a stage will still read. -/
  unread : Nat → Bytes
  /-- What a stage will still write. -/
  due : Nat → Product
  /-- What the last stage has written to files. -/
  sent : Sink → Bytes := fun _ => []
  /-- What was delivered to the sinks, every byte with the stage that it comes from. -/
  marked : Sink → List (Nat × UInt8) := fun _ => []

namespace Plan

def ledger (plan : Plan) : Ledger := { unread := plan.input, due := plan.product }

/-- The file system when some bytes were written to the ends of the files of a plan. -/
def extended (plan : Plan) (sent : Sink → Bytes) : FileSystem :=
  (plan.files.extendTo (plan.number .output) (sent .output)).extendTo (plan.number .error) (sent .error)

/-- Every stage reads what the one before it puts out, and the ends of the row are
different open files and lead to different stored ones. -/
structure Proper (plan : Plan) : Prop where
  linked : ∀ index, index < plan.row.last → plan.input (index + 1) = (plan.product index).output
  source : ∀ sink, plan.row.target sink ≠ some plan.row.source
  slots : ∀ sink other slot, plan.row.target sink = some slot → plan.row.target other = some slot → sink = other
  captured : ∀ sink, plan.row.target sink = none → plan.number sink = none
  input : ∀ sink number, plan.number sink = some number → plan.source ≠ .file number
  numbers : ∀ sink other number, plan.number sink = some number → plan.number other = some number → sink = other

private theorem Proper.extend_extended {plan : Plan} (proper : plan.Proper) {sink : Sink} {number : Nat}
    (takes : plan.number sink = some number) (sent : Sink → Bytes) (data : Bytes) :
    (plan.extended sent).extend number data = plan.extended (Function.update sent sink (sent sink ++ data)) := by
  cases sink with
  | error => simp [extended, takes, FileSystem.extendTo, FileSystem.extend_extend]
  | output =>
      cases other : plan.number .error with
      | none => simp [extended, takes, other, FileSystem.extendTo, FileSystem.extend_extend]
      | some second =>
          have different : number ≠ second := by
            rintro rfl
            cases proper.numbers .output .error number takes other
          simp only [extended, takes, other, FileSystem.extendTo, Option.elim_some, Function.update_self,
            ne_eq, reduceCtorEq, not_false_eq_true, Function.update_of_ne]
          rw [FileSystem.extend_comm _ (Ne.symm different), FileSystem.extend_extend]

end Plan

/-! ## Pipes -/

namespace State

def content (state : State) (pipe : Nat) : Bytes := (state.pipes[pipe]?).elim [] Buffer.toList

theorem content_of_some {state : State} {pipe : Nat} {buffer : Buffer} (found : state.pipes[pipe]? = some buffer) :
    state.content pipe = buffer.toList := by
  rw [content, found]
  rfl

theorem content_of_length_le {state : State} {pipe : Nat} (beyond : state.pipes.length ≤ pipe) :
    state.content pipe = [] := by
  rw [content, List.getElem?_eq_none beyond]
  rfl

theorem content_setPipe {state : State} {pipe : Nat} {buffer : Buffer} (found : state.pipes[pipe]? = some buffer)
    (changed : Buffer) (other : Nat) :
    (state.setPipe pipe changed).content other = if other = pipe then changed.toList else state.content other := by
  have bound := (List.getElem?_eq_some_iff.mp found).1
  by_cases same : other = pipe
  · subst same
    simp [content, setPipe, bound]
  · rw [content, setPipe, List.getElem?_set_ne (Ne.symm same), if_neg same]
    rfl

/-- New pipes are empty. -/
theorem content_append (state : State) (count pipe : Nat) :
    ((state.pipes ++ List.replicate count Buffer.empty)[pipe]?).elim [] Buffer.toList = state.content pipe := by
  rcases Nat.lt_or_ge pipe state.pipes.length with old | new
  · rw [List.getElem?_append_left old]
    rfl
  · rw [content_of_length_le new, List.getElem?_append_right new, List.getElem?_replicate]
    split <;> rfl

end State

/-- What still comes out of a stream of a stage: what is in its pipe, and what the stage
will still write. -/
def Ledger.coming (ledger : Ledger) (row : Row) (state : State) (index : Nat) (sink : Sink) : Bytes :=
  state.content (row.pipe index sink) ++ (ledger.due index).stream sink

/-! ## Drains -/

namespace Copier

/-- What a copier will still deliver of a stream of which some bytes are still to come. -/
def owes (copier : Copier) (coming : Bytes) : Bytes :=
  copier.pending.flatten ++
    match copier.drain with
    | some drain => Drain.image (drain.unfinished ++ coming)
    | none => []

/-- What a copier has delivered and what it will still deliver make up the image of a
stream. -/
structure Collects (copier : Copier) (written coming whole : Bytes) : Prop where
  clean : ∀ drain, copier.drain = some drain → newline ∉ drain.unfinished
  ended : copier.drain = none → coming = []
  image : written ++ copier.owes coming = Drain.image whole

variable {host : Host} {copier : Copier} {written coming whole : Bytes}

theorem collects_fresh (fresh : copier.IsFresh) (whole : Bytes) : copier.Collects [] whole whole := by
  obtain ⟨pending, drain⟩ := fresh
  constructor
  · intro between same
    rw [drain] at same
    cases same
    exact fun member => nomatch member
  · intro ended
    rw [drain] at ended
    cases ended
  · simp [owes, pending, drain]

theorem Collects.deliver {piece : Bytes} {pending : List Bytes} (collects : copier.Collects written coming whole)
    (planned : copier.pending = piece :: pending) :
    { copier with pending }.Collects (written ++ piece) coming whole where
  clean := collects.clean
  ended := collects.ended
  image := by
    rw [← collects.image]
    simp [owes, planned]

/-- A read that gives something. -/
theorem Collects.receive {drain : Drain} {data rest : Bytes} (collects : copier.Collects written (data ++ rest) whole)
    (planned : copier.pending = []) (going : copier.drain = some drain) (nonempty : data ≠ []) :
    { copier with
      pending := (drain.receive data).1.flatMap host.deliveries
      drain := (drain.receive data).2 }.Collects written rest whole := by
  obtain ⟨after, goesOn, image⟩ := Drain.image_receive drain nonempty rest
  constructor
  · intro between same
    simp only [goesOn, Option.some.injEq] at same
    subst same
    simp only [Drain.receive, List.isEmpty_iff, nonempty, if_false, Option.some.injEq] at goesOn
    exact goesOn ▸ (Drain.splitLines_spec _).2
  · intro ended
    cases goesOn.symm.trans ended
  · rw [← collects.image]
    simp only [owes, planned, going, goesOn, image, List.flatten_nil, List.nil_append, Host.flatten_flatMap_deliveries]

/-- A read at the end of the stream. -/
theorem Collects.close {drain : Drain} (collects : copier.Collects written [] whole) (planned : copier.pending = [])
    (going : copier.drain = some drain) :
    { copier with
      pending := (drain.receive []).1.flatMap host.deliveries
      drain := (drain.receive []).2 }.Collects written [] whole := by
  have image := collects.image
  have clean := collects.clean drain going
  simp only [owes, planned, going, List.flatten_nil, List.nil_append, List.append_nil, Drain.image_close clean] at image
  have after : (drain.receive []).2 = none ∨ (drain.receive []).2 = some {} := by
    by_cases nothing : drain.unfinished = [] <;> simp [Drain.receive, nothing]
  rcases after with stops | goesOn
  · constructor
    · exact fun between same => by cases stops.symm.trans same
    · exact fun _ => rfl
    · simp only [owes, stops, List.append_nil, Host.flatten_flatMap_deliveries]
      exact image
  · constructor
    · intro between same
      cases goesOn.symm.trans same
      exact fun member => by cases member
    · exact fun ended => by cases goesOn.symm.trans ended
    · simp only [owes, goesOn, List.append_nil, Drain.image_nil, Host.flatten_flatMap_deliveries]
      exact image

end Copier

/-! ## The invariant -/

/-- The pipes, the files and the drains hold what the ledger says, the first `count` stages
having been started. -/
structure Carries (plan : Plan) (ledger : Ledger) (count : Nat) (state : State) : Prop where
  made : ∀ index sink, index < count → plan.row.exit index sink = none →
    plan.row.pipe index sink < state.pipes.length
  unmade : count ≤ plan.row.last → state.pipes.length = 2 * count
  later : ∀ index, count ≤ index → ledger.unread index = plan.input index ∧ ledger.due index = plan.product index
  linked : ∀ index, index < plan.row.last →
    ledger.coming plan.row state index .output = ledger.unread (index + 1)
  source : ∃ file, state.opened[plan.row.source]? = some file ∧ file.Supplies ∧ file.node = plan.source ∧
    state.files.remaining file = ledger.unread 0
  target : ∀ sink slot, plan.row.target sink = some slot → ∃ file number, state.opened[slot]? = some file ∧
    plan.number sink = some number ∧ file.Appends state.files number ∧
    ledger.sent sink ++ (ledger.due plan.row.last).stream sink = (plan.product plan.row.last).stream sink
  files : state.files = plan.extended ledger.sent
  copiers : state.copiers.length = (plan.row.drained count).length
  copier : ∀ (number : Nat) (copier : Copier) (stream : Nat × Sink), state.copiers[number]? = some copier →
    (plan.row.drained count)[number]? = some stream →
    copier.course = (plan.row.copier stream).course ∧
      copier.Collects (itemsOf stream.1 (ledger.marked stream.2)) (ledger.coming plan.row state stream.1 stream.2)
        ((plan.product stream.1).stream stream.2)
  taken : ∀ sink, state.taken sink = (ledger.marked sink).map Prod.snd
  marks : ∀ sink entry, entry ∈ ledger.marked sink → (entry.1, sink) ∈ plan.row.drained count

namespace Carries

variable {plan : Plan} {ledger : Ledger} {count : Nat} {state : State}

/-- The part about the drains only depends on what is still to come. -/
theorem copier_of_coming (carries : Carries plan ledger count state) {after : State} {later : Ledger}
    (copiers : after.copiers = state.copiers) (marked : later.marked = ledger.marked)
    (coming : ∀ index sink, (index, sink) ∈ plan.row.drained count →
      later.coming plan.row after index sink = ledger.coming plan.row state index sink) :
    ∀ (number : Nat) (copier : Copier) (stream : Nat × Sink), after.copiers[number]? = some copier →
      (plan.row.drained count)[number]? = some stream →
      copier.course = (plan.row.copier stream).course ∧
        copier.Collects (itemsOf stream.1 (later.marked stream.2)) (later.coming plan.row after stream.1 stream.2)
          ((plan.product stream.1).stream stream.2) := by
  intro number copier stream found place
  rw [copiers] at found
  rw [marked, coming stream.1 stream.2 (List.mem_of_getElem? place)]
  exact carries.copier number copier stream found place

/-- Nothing becomes of the number of pipes when one of them is read or written. -/
theorem made_setPipe (carries : Carries plan ledger count state) (pipe : Nat) (content : Buffer) :
    (∀ index sink, index < count → plan.row.exit index sink = none →
      plan.row.pipe index sink < (state.setPipe pipe content).pipes.length) ∧
      (count ≤ plan.row.last → (state.setPipe pipe content).pipes.length = 2 * count) := by
  rw [State.setPipe, List.length_set]
  exact ⟨carries.made, carries.unmade⟩

/-- What a stage that was started reads changes nothing for the later ones. -/
theorem later_read (carries : Carries plan ledger count state) {index : Nat} (started : index < count) (rest : Bytes)
    (other : Nat) (beyond : count ≤ other) :
    Function.update ledger.unread index rest other = plan.input other ∧ ledger.due other = plan.product other := by
  rw [Function.update_of_ne (Nat.ne_of_gt (Nat.lt_of_lt_of_le started beyond))]
  exact carries.later other beyond

/-- Neither does what it writes. -/
theorem later_written (carries : Carries plan ledger count state) {index : Nat} (started : index < count)
    (product : Product) (other : Nat) (beyond : count ≤ other) :
    ledger.unread other = plan.input other ∧ Function.update ledger.due index product other = plan.product other := by
  rw [Function.update_of_ne (Nat.ne_of_gt (Nat.lt_of_lt_of_le started beyond))]
  exact carries.later other beyond

/-- There is a copier for every stream that is drained. -/
theorem exists_copier (carries : Carries plan ledger count state) {stream : Nat × Sink}
    (drained : stream ∈ plan.row.drained count) :
    ∃ (number : Nat) (copier : Copier), state.copiers[number]? = some copier ∧
      copier.pipe = plan.row.pipe stream.1 stream.2 ∧
      copier.Collects (itemsOf stream.1 (ledger.marked stream.2)) (ledger.coming plan.row state stream.1 stream.2)
        ((plan.product stream.1).stream stream.2) := by
  obtain ⟨number, place⟩ := List.mem_iff_getElem?.mp drained
  have bound : number < state.copiers.length := by
    rw [carries.copiers]
    exact (List.getElem?_eq_some_iff.mp place).1
  have found := List.getElem?_eq_getElem bound
  obtain ⟨course, collects⟩ := carries.copier number _ stream found place
  exact ⟨number, _, found, congrArg Prod.fst course, collects⟩

/-! ## Reading -/

/-- A stage reads from the pipe that the one before it writes. -/
theorem draw (carries : Carries plan ledger count state) {index : Nat} (inner : index < plan.row.last)
    (started : index + 1 < count) {content rest : Buffer} {data : Bytes}
    (found : state.pipes[plan.row.pipe index .output]? = some content) (split : content.toList = data ++ rest.toList) :
    ledger.unread (index + 1) = data ++ (rest.toList ++ (ledger.due index).output) ∧
      Carries plan
        { ledger with unread := Function.update ledger.unread (index + 1) (rest.toList ++ (ledger.due index).output) } count
        (state.setPipe (plan.row.pipe index .output) rest) := by
  have contents := State.content_setPipe found rest
  constructor
  · rw [← carries.linked index inner, Ledger.coming, State.content_of_some found, split, List.append_assoc]
    rfl
  · constructor
    case made => exact (carries.made_setPipe _ _).1
    case unmade => exact (carries.made_setPipe _ _).2
    case later => exact carries.later_read started _
    case linked =>
      intro other bound
      by_cases same : other = index
      · subst same
        simp only [Ledger.coming, contents, if_true, Function.update_self]
        rfl
      · have different : plan.row.pipe other .output ≠ plan.row.pipe index .output := by
          intro pipes
          exact same (Row.pipe_inj (Row.exit_inner bound) (Row.exit_inner inner) pipes).1
        have linked := carries.linked other bound
        simp only [Ledger.coming, contents, different, if_false] at linked ⊢
        rw [linked, Function.update_of_ne (by omega)]
    case source =>
      obtain ⟨file, opened, supplies, node, remaining⟩ := carries.source
      have other : 0 ≠ index + 1 := (Nat.succ_ne_zero index).symm
      refine ⟨file, opened, supplies, node, ?_⟩
      dsimp only
      rw [Function.update_of_ne other]
      exact remaining
    case target => exact carries.target
    case files => exact carries.files
    case copiers => exact carries.copiers
    case copier =>
      refine carries.copier_of_coming rfl rfl fun other sink member => ?_
      simp only [Ledger.coming, contents, Row.pipe_ne_of_drained member inner, if_false]
    case taken => exact carries.taken
    case marks => exact carries.marks

/-- The first stage reads from the open file at the beginning of the row. -/
theorem supply (carries : Carries plan ledger count state) (proper : plan.Proper) (started : 0 < count)
    {file later : OpenFile} (found : state.opened[plan.row.source]? = some file) (supplies : later.Supplies)
    (node : later.node = file.node) :
    Carries plan { ledger with unread := Function.update ledger.unread 0 (state.files.remaining later) } count
      (state.setOpened plan.row.source later) where
  made := carries.made
  unmade := carries.unmade
  later := carries.later_read started _
  linked := by
    intro index bound
    dsimp only
    rw [Function.update_of_ne (Nat.succ_ne_zero index)]
    exact carries.linked index bound
  source := by
    obtain ⟨same, foundSame, _, plan, _⟩ := carries.source
    obtain rfl := Option.some.inj (found.symm.trans foundSame)
    have bound := (List.getElem?_eq_some_iff.mp found).1
    refine ⟨later, by simp [State.setOpened, bound], supplies, node.trans plan, ?_⟩
    dsimp only
    rw [Function.update_self]
    rfl
  target := by
    intro sink slot leads
    obtain ⟨other, number, foundOther, rest⟩ := carries.target sink slot leads
    have different : plan.row.source ≠ slot := fun same => proper.source sink (same ▸ leads)
    exact ⟨other, number, by rwa [State.setOpened, List.getElem?_set_ne different], rest⟩
  files := carries.files
  copiers := carries.copiers
  copier := carries.copier
  taken := carries.taken
  marks := carries.marks

/-! ## Writing -/

section Writing

variable {index : Nat} {sink : Sink} {product : Product} {data : Bytes}

/-- A stage writes to a pipe. -/
theorem fill (carries : Carries plan ledger count state) (started : index < count)
    (captured : plan.row.exit index sink = none) {content : Buffer}
    (found : state.pipes[plan.row.pipe index sink]? = some content) (due : ledger.due index = product.before sink data) :
    Carries plan { ledger with due := Function.update ledger.due index product } count
      (state.setPipe (plan.row.pipe index sink) (content.push data)) := by
  have contents := State.content_setPipe found (content.push data)
  -- Bytes that are in the pipe now do not have to be written any more.
  have coming (other : Nat) (another : Sink) (open_ : plan.row.exit other another = none) :
      { ledger with due := Function.update ledger.due index product }.coming plan.row
        (state.setPipe (plan.row.pipe index sink) (content.push data)) other another =
      ledger.coming plan.row state other another := by
    simp only [Ledger.coming, contents]
    by_cases pipes : plan.row.pipe other another = plan.row.pipe index sink
    · obtain ⟨rfl, rfl⟩ := Row.pipe_inj open_ captured pipes
      rw [if_pos rfl, Function.update_self, due, Product.stream_before, if_pos rfl, State.content_of_some found,
        Buffer.toList_push, List.append_assoc]
    · rw [if_neg pipes]
      by_cases same : other = index
      · subst same
        have different : another ≠ sink := fun same => pipes (same ▸ rfl)
        rw [Function.update_self, due, Product.stream_before, if_neg different]
      · rw [Function.update_of_ne same]
  constructor
  case made => exact (carries.made_setPipe _ _).1
  case unmade => exact (carries.made_setPipe _ _).2
  case later => exact carries.later_written started _
  case linked =>
    intro other bound
    rw [coming other .output (Row.exit_inner bound)]
    exact carries.linked other bound
  case source => exact carries.source
  case target =>
    intro another slot leads
    obtain ⟨file, number, opened, takes, appends, whole⟩ := carries.target another slot leads
    refine ⟨file, number, opened, takes, appends, ?_⟩
    rw [← whole]
    dsimp only
    by_cases last : plan.row.last = index
    · subst last
      have different : another ≠ sink := by
        rintro rfl
        rw [Row.exit, if_pos rfl, leads] at captured
        cases captured
      rw [Function.update_self, due, Product.stream_before, if_neg different]
    · rw [Function.update_of_ne last]
  case files => exact carries.files
  case copiers => exact carries.copiers
  case copier =>
    refine carries.copier_of_coming rfl rfl fun other another member => ?_
    exact coming other another (Row.mem_drained.mp member).2.2
  case taken => exact carries.taken
  case marks => exact carries.marks

/-- The last stage writes to a file. -/
theorem send (carries : Carries plan ledger count state) (proper : plan.Proper) (started : plan.row.last < count)
    {slot number : Nat} {later : OpenFile} (leads : plan.row.target sink = some slot)
    (takes : plan.number sink = some number) (bound : slot < state.opened.length)
    (appends : later.Appends (state.files.extend number data) number)
    (due : ledger.due plan.row.last = product.before sink data) :
    Carries plan
      { ledger with
        due := Function.update ledger.due plan.row.last product
        sent := Function.update ledger.sent sink (ledger.sent sink ++ data) } count
      ({ state with files := state.files.extend number data }.setOpened slot later) := by
  have stream (another : Sink) (other : another ≠ sink) :
      product.stream another = (ledger.due plan.row.last).stream another := by
    rw [due, Product.stream_before, if_neg other]
  have coming (other : Nat) (another : Sink) (open_ : plan.row.exit other another = none) :
      { ledger with
        due := Function.update ledger.due plan.row.last product
        sent := Function.update ledger.sent sink (ledger.sent sink ++ data) }.coming plan.row
        ({ state with files := state.files.extend number data }.setOpened slot later) other another =
      ledger.coming plan.row state other another := by
    by_cases last : other = plan.row.last
    · subst last
      have different : another ≠ sink := by
        rintro rfl
        rw [Row.exit, if_pos rfl, leads] at open_
        cases open_
      simp only [Ledger.coming, Function.update_self, stream another different]
      rfl
    · simp only [Ledger.coming, Function.update_of_ne last]
      rfl
  constructor
  case made => exact carries.made
  case unmade => exact carries.unmade
  case later => exact carries.later_written started _
  case linked =>
    intro other inner
    rw [coming other .output (Row.exit_inner inner)]
    exact carries.linked other inner
  case source =>
    obtain ⟨file, found, supplies, node, remaining⟩ := carries.source
    have different : slot ≠ plan.row.source := fun same => proper.source sink (same ▸ leads)
    refine ⟨file, by rwa [State.setOpened, List.getElem?_set_ne different], supplies, node, ?_⟩
    rw [← remaining]
    have other : file.node ≠ .file number := node ▸ proper.input sink number takes
    simp only [State.setOpened, FileSystem.remaining_eq, FileSystem.content_extend_of_ne _ other]
  case target =>
    intro another place leadsOther
    by_cases same : another = sink
    · subst same
      obtain rfl := Option.some.inj (leads.symm.trans leadsOther)
      obtain ⟨_, _, _, _, _, whole⟩ := carries.target another slot leads
      refine ⟨later, number, by simp [State.setOpened, bound], takes, appends, ?_⟩
      rw [← whole, due]
      simp only [Function.update_self, Product.stream_before, if_true, List.append_assoc]
    · obtain ⟨file, otherNumber, found, takesOther, appendsOther, whole⟩ := carries.target another place leadsOther
      have slots : slot ≠ place := by
        rintro rfl
        exact same (proper.slots another sink slot leadsOther leads)
      have numbers : number ≠ otherNumber := by
        rintro rfl
        exact same (proper.numbers another sink number takesOther takes)
      refine ⟨file, otherNumber, by rwa [State.setOpened, List.getElem?_set_ne slots], takesOther,
        appendsOther.extend_other numbers data, ?_⟩
      simp only [Function.update_self, Function.update_of_ne same, stream another same]
      exact whole
  case files =>
    simp only [State.setOpened, carries.files]
    exact proper.extend_extended takes ledger.sent data
  case copiers => exact carries.copiers
  case copier =>
    refine carries.copier_of_coming rfl rfl fun other another member => ?_
    exact coming other another (Row.mem_drained.mp member).2.2
  case taken => exact carries.taken
  case marks => exact carries.marks

end Writing

/-! ## Draining -/

section Draining

variable {host : Host} {number : Nat} {copier : Copier} {stream : Nat × Sink}

/-- A copier changes, and the others find what they found before. -/
theorem copier_set (carries : Carries plan ledger count state) (place : (plan.row.drained count)[number]? = some stream)
    {changed : Copier} {after : State} {later : Ledger} (copiers : after.copiers = state.copiers.set number changed)
    (course : changed.course = (plan.row.copier stream).course)
    (collects : changed.Collects (itemsOf stream.1 (later.marked stream.2))
      (later.coming plan.row after stream.1 stream.2) ((plan.product stream.1).stream stream.2))
    (others : ∀ index sink, (index, sink) ∈ plan.row.drained count → (index, sink) ≠ stream →
      itemsOf index (later.marked sink) = itemsOf index (ledger.marked sink) ∧
        later.coming plan.row after index sink = ledger.coming plan.row state index sink) :
    ∀ (number : Nat) (copier : Copier) (stream : Nat × Sink), after.copiers[number]? = some copier →
      (plan.row.drained count)[number]? = some stream →
      copier.course = (plan.row.copier stream).course ∧
        copier.Collects (itemsOf stream.1 (later.marked stream.2)) (later.coming plan.row after stream.1 stream.2)
          ((plan.product stream.1).stream stream.2) := by
  intro other copier another found placeOther
  rw [copiers] at found
  by_cases here : number = other
  · subst here
    obtain rfl := Option.some.inj (place.symm.trans placeOther)
    obtain ⟨_, rfl⟩ : _ ∧ changed = copier := by simpa [List.getElem?_set] using found
    exact ⟨course, collects⟩
  · rw [List.getElem?_set_ne here] at found
    have different : another ≠ stream := by
      rintro rfl
      have bound := (List.getElem?_eq_some_iff.mp place).1
      exact here ((List.getElem?_inj bound (Row.nodup_drained plan.row count)).mp (place.trans placeOther.symm))
    obtain ⟨items, coming⟩ := others another.1 another.2 (List.mem_of_getElem? placeOther) different
    rw [items, coming]
    exact carries.copier other copier another found placeOther

/-- A copier reads from its pipe. -/
theorem listen (carries : Carries plan ledger count state) (found : state.copiers[number]? = some copier)
    (place : (plan.row.drained count)[number]? = some stream) (planned : copier.pending = []) {drain : Drain}
    (going : copier.drain = some drain) {content rest : Buffer} {data : Bytes}
    (foundPipe : state.pipes[copier.pipe]? = some content) (split : content.toList = data ++ rest.toList)
    (nonempty : data ≠ []) :
    Carries plan ledger count { state.setPipe copier.pipe rest with
      copiers := state.copiers.set number { copier with
        pending := (drain.receive data).1.flatMap host.deliveries
        drain := (drain.receive data).2 } } := by
  obtain ⟨course, collects⟩ := carries.copier number copier stream found place
  have member := List.mem_of_getElem? place
  obtain ⟨_, leads, captured⟩ := Row.mem_drained.mp member
  have pipe : copier.pipe = plan.row.pipe stream.1 stream.2 := congrArg Prod.fst course
  have piped : state.setPipe copier.pipe rest = state.setPipe (plan.row.pipe stream.1 stream.2) rest := by rw [pipe]
  rw [pipe] at foundPipe
  rw [piped]
  have contents := State.content_setPipe foundPipe rest
  have coming : ledger.coming plan.row state stream.1 stream.2 =
      data ++ (rest.toList ++ (ledger.due stream.1).stream stream.2) := by
    rw [Ledger.coming, State.content_of_some foundPipe, split, List.append_assoc]
  rw [coming] at collects
  -- No other stream goes through this pipe.
  have others (index : Nat) (sink : Sink) (open_ : plan.row.exit index sink = none) (different : (index, sink) ≠ stream) :
      (state.setPipe (plan.row.pipe stream.1 stream.2) rest).content (plan.row.pipe index sink) =
        state.content (plan.row.pipe index sink) := by
    rw [contents, if_neg]
    intro pipes
    obtain ⟨sameIndex, sameSink⟩ := Row.pipe_inj open_ captured pipes
    exact different (Prod.ext sameIndex sameSink)
  constructor
  case made => exact (carries.made_setPipe _ _).1
  case unmade => exact (carries.made_setPipe _ _).2
  case later => exact carries.later
  case linked =>
    intro index inner
    have different : (index, Sink.output) ≠ stream := by
      rintro rfl
      rcases leads with error | last
      · cases error
      · exact Nat.ne_of_lt inner last
    rw [← carries.linked index inner]
    exact congrArg (· ++ _) (others index .output (Row.exit_inner inner) different)
  case source => exact carries.source
  case target => exact carries.target
  case files => exact carries.files
  case copiers =>
    rw [List.length_set]
    exact carries.copiers
  case copier =>
    apply carries.copier_set place
    · rfl
    · exact course
    · have left : ledger.coming plan.row { state.setPipe (plan.row.pipe stream.1 stream.2) rest with
          copiers := state.copiers.set number { copier with
            pending := (drain.receive data).1.flatMap host.deliveries
            drain := (drain.receive data).2 } } stream.1 stream.2 =
          rest.toList ++ (ledger.due stream.1).stream stream.2 :=
        congrArg (· ++ _) ((contents _).trans (if_pos rfl))
      rw [left]
      exact collects.receive planned going nonempty
    · intro index sink memberOther different
      refine ⟨rfl, ?_⟩
      exact congrArg (· ++ _) (others index sink (Row.mem_drained.mp memberOther).2.2 different)
  case taken => exact carries.taken
  case marks => exact carries.marks

/-- A copier finds that its stream has ended. -/
theorem close (carries : Carries plan ledger count state) (found : state.copiers[number]? = some copier)
    (place : (plan.row.drained count)[number]? = some stream) (planned : copier.pending = []) {drain : Drain}
    (going : copier.drain = some drain) (nothing : ledger.coming plan.row state stream.1 stream.2 = []) :
    Carries plan ledger count { state with
      copiers := state.copiers.set number { copier with
        pending := (drain.receive []).1.flatMap host.deliveries
        drain := (drain.receive []).2 } } := by
  obtain ⟨course, collects⟩ := carries.copier number copier stream found place
  refine { carries with copiers := ?_, copier := ?_ }
  · rw [List.length_set]
    exact carries.copiers
  · apply carries.copier_set place
    · rfl
    · exact course
    · rw [nothing] at collects
      have same : ledger.coming plan.row { state with copiers := state.copiers.set number { copier with
          pending := (drain.receive []).1.flatMap host.deliveries
          drain := (drain.receive []).2 } } stream.1 stream.2 = [] := nothing
      rw [same]
      exact collects.close planned going
    · exact fun _ _ _ _ => ⟨rfl, rfl⟩

/-- A copier delivers a piece to its sink. -/
theorem deliver (carries : Carries plan ledger count state) (found : state.copiers[number]? = some copier)
    (place : (plan.row.drained count)[number]? = some stream) {piece : Bytes} {pending : List Bytes}
    (planned : copier.pending = piece :: pending) {captured complaints : Buffer}
    (taken : ∀ sink, { state with captured, complaints }.taken sink =
      state.taken sink ++ if copier.sink = some sink then piece else []) :
    Carries plan
      { ledger with
        marked := Function.update ledger.marked stream.2 (ledger.marked stream.2 ++ piece.map (stream.1, ·)) } count
      { state with copiers := state.copiers.set number { copier with pending }, captured, complaints } := by
  obtain ⟨course, collects⟩ := carries.copier number copier stream found place
  have sinkOf : copier.sink = some stream.2 := congrArg Prod.snd course
  refine { carries with copiers := ?_, copier := ?_, taken := ?_, marks := ?_ }
  · rw [List.length_set]
    exact carries.copiers
  · apply carries.copier_set place
    · rfl
    · exact course
    · simp only [Function.update_self, itemsOf_append, itemsOf_map, if_true]
      exact collects.deliver planned
    · intro index sink _ different
      refine ⟨?_, rfl⟩
      by_cases same : sink = stream.2
      · subst same
        have other : stream.1 ≠ index := fun same => different (Prod.ext same.symm rfl)
        simp only [Function.update_self, itemsOf_append, itemsOf_map, if_neg other, List.append_nil]
      · simp only [Function.update_of_ne same]
  · intro sink
    refine (taken sink).trans ?_
    rw [carries.taken sink, sinkOf]
    by_cases same : sink = stream.2
    · subst same
      simp [Function.comp_def]
    · simp [Function.update_of_ne same, Ne.symm same]
  · intro sink entry member
    by_cases same : sink = stream.2
    · subst same
      simp only [Function.update_self, List.mem_append, List.mem_map] at member
      rcases member with old | ⟨_, _, rfl⟩
      · exact carries.marks _ entry old
      · exact List.mem_of_getElem? place
    · simp only [Function.update_of_ne same] at member
      exact carries.marks sink entry member

end Draining

/-! ## Starting -/

/-- The next stage is started, with new pipes and drains. -/
theorem launch (carries : Carries plan ledger count state) (bound : count ≤ plan.row.last)
    (processes : List Process) (conductor : Conductor) (log : List LogRecord) :
    Carries plan ledger (count + 1) { state with
      pipes := state.pipes ++ List.replicate (plan.row.added count) .empty
      processes
      copiers := state.copiers ++ (plan.row.drains count).map plan.row.copier
      conductor
      log } := by
  have unmade := carries.unmade bound
  have coming (index : Nat) (sink : Sink) : ledger.coming plan.row { state with
      pipes := state.pipes ++ List.replicate (plan.row.added count) .empty
      processes
      copiers := state.copiers ++ (plan.row.drains count).map plan.row.copier
      conductor
      log } index sink = ledger.coming plan.row state index sink :=
    congrArg (· ++ _) (State.content_append state (plan.row.added count) (plan.row.pipe index sink))
  constructor
  case made =>
    intro index sink started captured
    rw [List.length_append, List.length_replicate]
    rcases Nat.lt_or_eq_of_le (Nat.le_of_lt_succ started) with old | rfl
    · have := carries.made index sink old captured
      omega
    · have := Row.pipe_lt captured
      omega
  case unmade =>
    intro more
    rw [List.length_append, List.length_replicate, Row.added_inner more]
    omega
  case later => exact fun index beyond => carries.later index (Nat.le_of_succ_le beyond)
  case linked =>
    intro index inner
    rw [coming]
    exact carries.linked index inner
  case source => exact carries.source
  case target => exact carries.target
  case files => exact carries.files
  case copiers => simp [carries.copiers, Row.drained_succ]
  case copier =>
    intro number copier stream found place
    rw [coming]
    rw [Row.drained_succ] at place
    rcases Nat.lt_or_ge number state.copiers.length with old | new
    · rw [List.getElem?_append_left old] at found
      rw [List.getElem?_append_left (carries.copiers ▸ old)] at place
      exact carries.copier number copier stream found place
    · rw [List.getElem?_append_right new] at found
      rw [List.getElem?_append_right (carries.copiers ▸ new), ← carries.copiers] at place
      rw [List.getElem?_map, place] at found
      obtain rfl := Option.some.inj found
      -- Nothing of the stream has been carried yet, so all of it is still to come.
      have here : stream.1 = count := by
        obtain ⟨_, _, rfl⟩ := List.mem_map.mp (List.mem_of_getElem? place)
        rfl
      have unmarked : itemsOf stream.1 (ledger.marked stream.2) = [] := by
        refine itemsOf_eq_nil fun entry member same => ?_
        have earlier := (Row.mem_drained.mp (carries.marks stream.2 entry member)).1
        dsimp only at earlier
        omega
      have all : ledger.coming plan.row state stream.1 stream.2 = (plan.product stream.1).stream stream.2 := by
        have beyond := (plan.row.le_pipe stream.1 stream.2).1
        rw [Ledger.coming, State.content_of_length_le (by omega), (carries.later stream.1 (by omega)).2]
        rfl
      rw [unmarked, all]
      exact ⟨rfl, Copier.collects_fresh ⟨rfl, rfl⟩ _⟩
  case taken => exact carries.taken
  case marks =>
    intro sink entry member
    rw [Row.drained_succ]
    exact List.mem_append_left _ (carries.marks sink entry member)

end Carries

end PipeShell.Pipeline
