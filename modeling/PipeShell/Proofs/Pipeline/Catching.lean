import PipeShell.Proofs.Pipeline.Ending
import PipeShell.Proofs.Pipeline.Pouring
import PipeShell.Proofs.Pipeline.Reserving

/-! # What the drains catch

Nobody but its drain takes anything out of a pipe that is drained. So all that was ever
written to the pipe is what the drain has delivered, what it has yet to deliver, and what
is left in the pipe. Once the drain is done, it has delivered everything. -/

set_option autoImplicit false

namespace PipeShell.Pipeline

open PipeShell.System

namespace State

/-- How what a copier has delivered is related to what was written to its pipe: more may
come, or nobody can write the pipe any more. -/
inductive Relays (state : State) (copier : Copier) (written poured : Bytes) : Prop where
  | going : (∀ more, copier.Collects written (state.content copier.pipe ++ more) (poured ++ more)) →
      Relays state copier written poured
  | closed : state.hasWriter copier.pipe = false → state.content copier.pipe = [] → copier.Collects written [] poured →
      Relays state copier written poured

namespace Relays

variable {state before after : State} {copier changed : Copier} {written later poured : Bytes}

/-- Once it is done, a copier has delivered all that was written to its pipe. -/
theorem whole (relays : state.Relays copier written poured) (done : copier.isDone = true) :
    written = Drain.image poured := by
  cases relays with
  | going collects => exact List.append_nil poured ▸ (collects []).whole done
  | closed _ _ collects => exact collects.whole done

theorem advance (relays : before.Relays copier written poured) (pipe : changed.pipe = copier.pipe)
    (content : after.content copier.pipe = before.content copier.pipe)
    (writers : after.hasWriter copier.pipe = before.hasWriter copier.pipe)
    (collects : ∀ coming whole, copier.Collects written coming whole → changed.Collects later coming whole) :
    after.Relays changed later poured := by
  cases relays with
  | going going =>
      refine .going fun more => ?_
      rw [pipe, content]
      exact collects _ _ (going more)
  | closed closed nothing ended =>
      exact .closed (by rw [pipe, writers, closed]) (by rw [pipe, content, nothing]) (collects _ _ ended)

private theorem pour {data : Bytes} (relays : before.Relays copier written poured)
    (content : after.content copier.pipe = before.content copier.pipe ++ data)
    (closed : before.hasWriter copier.pipe = false → after.hasWriter copier.pipe = false ∧ data = []) :
    after.Relays copier written (poured ++ data) := by
  cases relays with
  | going collects =>
      refine .going fun more => ?_
      rw [content, List.append_assoc, List.append_assoc]
      exact collects (data ++ more)
  | closed unwritten nothing collects =>
      obtain ⟨stays, rfl⟩ := closed unwritten
      rw [List.append_nil] at content ⊢
      exact .closed stays (content.trans nothing) collects

private theorem read {host : Host} {drain : Drain} {data : Bytes} (relays : before.Relays copier written poured)
    (planned : copier.pending = []) (going : copier.drain = some drain)
    (split : before.content copier.pipe = data ++ after.content copier.pipe)
    (writers : after.hasWriter copier.pipe = before.hasWriter copier.pipe)
    (ended : data = [] → before.content copier.pipe = [] ∧ before.hasWriter copier.pipe = false) :
    after.Relays { copier with
      pending := (drain.receive data).1.flatMap host.deliveries, drain := (drain.receive data).2 } written poured := by
  by_cases empty : data = []
  · subst empty
    obtain ⟨nothing, unwritten⟩ := ended rfl
    have collects : copier.Collects written [] poured := by
      cases relays with
      | going collects => simpa [nothing] using collects []
      | closed _ _ collects => exact collects
    exact .closed (writers.trans unwritten) (split.symm.trans nothing) (collects.close planned going)
  · cases relays with
    | going collects =>
        refine .going fun more => ?_
        have ahead := collects more
        rw [split, List.append_assoc] at ahead
        exact ahead.receive planned going empty
    | closed _ nothing _ => exact absurd (List.append_eq_nil_iff.mp (split.symm.trans nothing)).1 empty

end Relays

/-- Every byte that a sink has taken is marked with the copier that delivered it, and from
some copier on, every copier relays what was written to its pipe. -/
structure Catches (host : Host) (first : Nat) (moves : List Move) (state : State)
    (marked : Sink → List (Nat × UInt8)) : Prop where
  taken : ∀ sink, state.taken sink = (marked sink).map Prod.snd
  marks : ∀ sink, ∀ entry ∈ marked sink, entry.1 < state.copiers.length
  unpoured : ∀ pipe, state.pipes.length ≤ pipe → pouredInto host moves pipe = []
  relays : ∀ number copier sink, first ≤ number → state.copiers[number]? = some copier → copier.sink = some sink →
    state.Relays copier (itemsOf number (marked sink)) (pouredInto host moves copier.pipe)

namespace Catches

variable {host : Host} {state after : State} {first : Nat} {moves : List Move} {marked : Sink → List (Nat × UInt8)}

private theorem initial (host : Host) (before : State) (files : FileSystem) (redirects : Redirects) (line : Line) :
    Catches host before.copiers.length [] (before.prepared files redirects line) fun _ => [] where
  taken := by
    obtain ⟨_, _, _, _, same⟩ := prepared_eq before files redirects line
    intro sink
    rw [same]
    cases sink <;> rfl
  marks := fun _ _ member => nomatch member
  unpoured := fun _ _ => rfl
  relays := by
    intro number copier sink low found
    rw [copiers_prepared, List.getElem?_eq_none low] at found
    cases found

/-- What everybody but the copiers does adds to what was written, and to nothing else. -/
theorem pass {actor : Actor} (catches : Catches host first moves state marked) (isSealed : state.Sealed first)
    (reserved : state.Reserved first) (other : ∀ number, actor ≠ .copier number)
    (moved : state.move host actor = some after) :
    Catches host first (moves ++ [⟨state, actor, after⟩]) after marked := by
  obtain ⟨added, copiers, fresh⟩ := isSealed.added_of_move other moved
  have remains := Remains.move other moved
  obtain ⟨pipes, writable⟩ := isSealed.pipes_of_move moved
  have stays {pipe : Nat} (bound : pipe < state.pipes.length) (closed : state.hasWriter pipe = false) :
      after.hasWriter pipe = false := by
    refine eq_false_of_ne_true fun written => ?_
    rcases writable pipe written with old | new
    · cases closed.symm.trans old
    · exact Nat.not_lt_of_le new bound
  have unwritten {pipe : Nat} (beyond : state.pipes.length ≤ pipe) : state.hasWriter pipe = false :=
    eq_false_of_ne_true fun written => Nat.not_lt_of_le beyond (isSealed.inheriting.bounded pipe written)
  have unpoured {pipe : Nat} (beyond : state.pipes.length ≤ pipe) :
      pouredInto host (moves ++ [⟨state, actor, after⟩]) pipe = [] := by
    rw [pouredInto_concat, catches.unpoured pipe beyond, poured_of_closed moved (unwritten beyond)]
    rfl
  constructor
  case taken =>
    intro sink
    rw [← catches.taken sink]
    cases sink with
    | output => exact congrArg Buffer.toList remains.captured
    | error => exact congrArg Buffer.toList remains.complaints
  case marks =>
    intro sink entry member
    rw [copiers, List.length_append]
    exact Nat.lt_of_lt_of_le (catches.marks sink entry member) (Nat.le_add_right _ _)
  case unpoured => exact fun pipe beyond => unpoured (Nat.le_trans pipes beyond)
  case relays =>
    intro number copier sink low found leads
    rw [copiers] at found
    rcases Nat.lt_or_ge number state.copiers.length with old | new
    · rw [List.getElem?_append_left old] at found
      have made := isSealed.made copier (List.mem_of_getElem? found)
      rw [pouredInto_concat]
      -- Whoever else takes something out of the pipe would hold its reading end.
      rcases content_of_move other moved copier.pipe with content | ⟨reader, member, reads⟩
      · refine (catches.relays number copier sink low found leads).pour content fun closed => ?_
        exact ⟨stays made closed, poured_of_closed moved closed⟩
      · cases (reserved.unread number copier low found reader member).symm.trans reads
    · rw [List.getElem?_append_right new] at found
      obtain ⟨fresh, beyond⟩ := fresh copier (List.mem_of_getElem? found)
      -- Nobody has delivered or written anything for a copier that is new.
      have unmarked : itemsOf number (marked sink) = [] :=
        itemsOf_eq_nil fun entry member => Nat.ne_of_lt (Nat.lt_of_lt_of_le (catches.marks sink entry member) new)
      have content : after.content copier.pipe = [] := by
        rcases content_of_move other moved copier.pipe with content | ⟨reader, member, reads⟩
        · rw [content, content_of_length_le beyond, poured_of_closed moved (unwritten beyond)]
          rfl
        · exact absurd (reserved.bounded reader member _ copier.pipe rfl reads) (Nat.not_lt_of_le beyond)
      rw [unmarked, unpoured beyond]
      refine .going fun more => ?_
      rw [content]
      exact Copier.collects_fresh fresh _

section Copying

variable {number : Nat} {copier : Copier}

/-- What one copier does writes to no pipe, so that the others need only look at their own. -/
theorem set {changed : Copier} {marking : Sink → List (Nat × UInt8)} (catches : Catches host first moves state marked)
    (bound : number < state.copiers.length) (copiers : after.copiers = state.copiers.set number changed)
    (pipes : state.pipes.length ≤ after.pipes.length) (taken : ∀ sink, after.taken sink = (marking sink).map Prod.snd)
    (marks : ∀ sink, ∀ entry ∈ marking sink, entry ∈ marked sink ∨ entry.1 = number)
    (own : ∀ sink, first ≤ number → changed.sink = some sink →
      after.Relays changed (itemsOf number (marking sink)) (pouredInto host moves changed.pipe))
    (others : ∀ other another sink, other ≠ number → first ≤ other → state.copiers[other]? = some another →
      another.sink = some sink → itemsOf other (marking sink) = itemsOf other (marked sink) ∧
        after.content another.pipe = state.content another.pipe ∧
        after.hasWriter another.pipe = state.hasWriter another.pipe) :
    Catches host first (moves ++ [⟨state, .copier number, after⟩]) after marking := by
  have poured (pipe : Nat) :
      pouredInto host (moves ++ [⟨state, .copier number, after⟩]) pipe = pouredInto host moves pipe :=
    (pouredInto_concat ..).trans (List.append_nil _)
  constructor
  case taken => exact taken
  case marks =>
    intro sink entry member
    rw [copiers, List.length_set]
    rcases marks sink entry member with old | same
    · exact catches.marks sink entry old
    · exact same ▸ bound
  case unpoured =>
    intro pipe beyond
    rw [poured]
    exact catches.unpoured pipe (Nat.le_trans pipes beyond)
  case relays =>
    intro other another sink low found leads
    rw [copiers] at found
    rw [poured]
    by_cases here : other = number
    · subst here
      obtain rfl := Option.some.inj ((List.getElem?_set_self bound).symm.trans found)
      exact own sink low leads
    · rw [List.getElem?_set_ne (Ne.symm here)] at found
      obtain ⟨items, content, writers⟩ := others other another sink here low found leads
      rw [items]
      exact (catches.relays other another sink low found leads).advance rfl content writers fun _ _ => id

private theorem copy (catches : Catches host first moves state marked) (isSealed : state.Sealed first)
    (reserved : state.Reserved first) (found : state.copiers[number]? = some copier)
    (moved : state.moveCopier host number copier = some after) :
    ∃ marked, Catches host first (moves ++ [⟨state, .copier number, after⟩]) after marked := by
  have made := isSealed.made copier (List.mem_of_getElem? found)
  have bound := (List.getElem?_eq_some_iff.mp found).1
  have pipes := (Undisturbed.moveCopier found moved).pipes
  have writers (pipe : Nat) : after.hasWriter pipe = state.hasWriter pipe := by
    rw [hasWriter, (copier_cases moved).1]
    rfl
  rcases moveCopier_cases made moved with ⟨piece, pending, planned, same, copiers, taken⟩ | read
  · let marking (sink : Sink) := marked sink ++ if copier.sink = some sink then piece.map (number, ·) else []
    refine ⟨marking, catches.set bound copiers pipes ?_ ?_ ?_ ?_⟩
    · intro sink
      rw [taken sink, catches.taken sink, List.map_append]
      split <;> simp [Function.comp_def]
    · intro sink entry member
      rcases List.mem_append.mp member with old | new
      · exact .inl old
      · split at new
        · obtain ⟨_, _, rfl⟩ := List.mem_map.mp new
          exact .inr rfl
        · cases new
    · intro sink low leads
      have items : itemsOf number (marking sink) = itemsOf number (marked sink) ++ piece := by
        rw [itemsOf_append, if_pos leads, itemsOf_map, if_pos rfl]
      rw [items]
      exact (catches.relays number copier sink low found leads).advance rfl (content_of_pipes same _) (writers _)
        fun _ _ collects => collects.deliver planned
    · intro other another sink different _ _ _
      have items : itemsOf other (marking sink) = itemsOf other (marked sink) := by
        rw [itemsOf_append]
        split
        · rw [itemsOf_map, if_neg different.symm, List.append_nil]
        · exact List.append_nil _
      exact ⟨items, content_of_pipes same _, writers _⟩
  · obtain ⟨drain, data, planned, going, copiers, taken, elsewhere, split, ended⟩ := read
    refine ⟨marked, catches.set bound copiers pipes ?_ (fun _ _ => .inl) ?_ ?_⟩
    · exact fun sink => (taken sink).trans (catches.taken sink)
    · intro sink low leads
      exact (catches.relays number copier sink low found leads).read planned going split (writers _) ended
    · intro other another sink different low foundOther _
      have apart := reserved.alone other another number copier low foundOther found different.symm
      exact ⟨rfl, elsewhere _ apart.symm, writers _⟩

end Copying

private theorem move {actor : Actor} (catches : Catches host first moves state marked) (isSealed : state.Sealed first)
    (reserved : state.Reserved first) (moved : state.move host actor = some after) :
    ∃ marked, Catches host first (moves ++ [⟨state, actor, after⟩]) after marked := by
  by_cases copies : ∃ number, actor = .copier number
  · obtain ⟨number, rfl⟩ := copies
    unfold State.move at moved
    split at moved
    · cases moved
    · simp only [State.turn] at moved
      split at moved
      · next copier found => exact catches.copy isSealed reserved found moved
      · cases moved
  · exact ⟨marked, catches.pass isSealed reserved (fun number same => copies ⟨number, same⟩) moved⟩

/-- In every run of a line the drains catch what is written to their pipes. -/
theorem run {before : State} {files : FileSystem} {redirects : Redirects} {line : Line} (ready : before.Ready)
    (contained : before.Contained) (confined : host.Confined)
    (run : Run host (before.prepared files redirects line) moves state) :
    ∃ marked, Catches host before.copiers.length moves state marked := by
  have isSealed := @Ready.sealed_prepared before files redirects line ready
  have reserved := Reserved.initial contained files redirects line
  induction run with
  | idle => exact ⟨_, initial host before files redirects line⟩
  | move earlier moved ih =>
      obtain ⟨_, catches⟩ := ih
      exact catches.move (isSealed.run confined.inherits earlier) (reserved.run isSealed confined earlier) moved

end Catches

end State

end PipeShell.Pipeline
