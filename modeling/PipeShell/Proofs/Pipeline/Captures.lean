import PipeShell.Proofs.Drain.Sharing
import PipeShell.Proofs.Pipeline.Execution
import PipeShell.Proofs.Pipeline.Remains

/-! # What the sinks take

The copiers of a pipeline that lead to one sink are drains that share its buffer: every
run of the pipeline, whoever else moves in it, is a run of these drains. So nothing that
a copier delivers gets lost, and nothing is there twice. -/

set_option autoImplicit false

namespace PipeShell.Pipeline

/-- A copier as a drain of which nobody knows what it has read. -/
def Copier.drainer (copier : Copier) : Drainer := { pending := copier.pending, drain := copier.drain }

/-- The buffer of a sink with the copiers that share it. -/
def State.sharing (state : State) (sink : Sink) : Sharing where
  buffer := state.taken sink
  drainers := (state.copiers.filter (·.sink = some sink)).map Copier.drainer

/-- The same drains, as if nobody knew what they have read. -/
def Sharing.unseen (sharing : Sharing) : Sharing :=
  { sharing with drainers := sharing.drainers.map fun drainer => { drainer with seen := [] } }

private theorem Copier.drainer_of_fresh {copier : Copier} (fresh : copier.IsFresh) : copier.drainer = .fresh := by
  obtain ⟨pending, drain⟩ := fresh
  rw [drainer, pending, drain]
  rfl

namespace Sharing

variable {host : Host}

/-- Any number of drains can be started. -/
theorem Run.starts (sharing : Sharing) (count : Nat) :
    Run host sharing ⟨sharing.buffer, sharing.drainers ++ List.replicate count .fresh⟩ := by
  induction count with
  | zero =>
      rw [List.replicate_zero, List.append_nil]
      exact .refl
  | succ count ih =>
      rw [List.replicate_succ', ← List.append_assoc]
      exact .tail ih .start

/-- What the drains are is known even if what they have read is not. -/
theorem exists_split {sharing : Sharing} {front back : List Drainer} {pending : List Bytes} {drain : Option Drain}
    (same : sharing.unseen.drainers = front ++ ⟨[], pending, drain⟩ :: back) :
    ∃ earlier later seen, sharing.drainers = earlier ++ ⟨seen, pending, drain⟩ :: later ∧
      earlier.map (fun drainer => { drainer with seen := [] }) = front ∧
      later.map (fun drainer => { drainer with seen := [] }) = back := by
  obtain ⟨earlier, rest, split, sameFront, sameRest⟩ := List.map_eq_append_iff.mp same
  obtain ⟨⟨seen, pending', drain'⟩, later, rfl, sameDrainer, sameBack⟩ := List.map_eq_cons_iff.mp sameRest
  cases sameDrainer
  exact ⟨earlier, later, seen, split, sameFront, sameBack⟩

end Sharing

namespace State

variable {host : Host} {before after : State}

/-- Whoever moves but the copiers, no drain is disturbed, and there may be new ones. -/
theorem sharing_of_remains (remains : Remains before after) (sink : Sink) :
    ∃ count, after.sharing sink =
      ⟨(before.sharing sink).buffer, (before.sharing sink).drainers ++ List.replicate count .fresh⟩ := by
  obtain ⟨added, same, fresh⟩ := remains.copiers
  refine ⟨(added.filter (·.sink = some sink)).length, ?_⟩
  have started : (added.filter (·.sink = some sink)).map Copier.drainer =
      List.replicate (added.filter (·.sink = some sink)).length .fresh := by
    refine List.eq_replicate_iff.mpr ⟨List.length_map _, ?_⟩
    intro drainer member
    obtain ⟨copier, among, rfl⟩ := List.mem_map.mp member
    exact Copier.drainer_of_fresh (fresh copier (List.mem_filter.mp among).1)
  have buffer : after.taken sink = before.taken sink := by
    cases sink with
    | output => exact congrArg System.Buffer.toList remains.captured
    | error => exact congrArg System.Buffer.toList remains.complaints
  simp only [sharing, buffer, same, List.filter_append, List.map_append, started]

/-- The drains of a sink when a copier has changed, if it leads there. -/
theorem sharing_set {number : Nat} {copier changed : Copier} (sink : Sink)
    (found : before.copiers[number]? = some copier) (copiers : after.copiers = before.copiers.set number changed)
    (leads : changed.sink = copier.sink) :
    if copier.sink = some sink then
      ∃ front back, (before.sharing sink).drainers = front ++ copier.drainer :: back ∧
        (after.sharing sink).drainers = front ++ changed.drainer :: back
    else (after.sharing sink).drainers = (before.sharing sink).drainers := by
  obtain ⟨bound, same⟩ := List.getElem?_eq_some_iff.mp found
  obtain ⟨front, back, split, _, replaced⟩ := @List.exists_of_set _ _ changed _ bound
  rw [same] at split
  rw [replaced] at copiers
  split
  · next here =>
      refine ⟨(front.filter (·.sink = some sink)).map Copier.drainer,
        (back.filter (·.sink = some sink)).map Copier.drainer, ?_, ?_⟩
      · simp [sharing, split, here]
      · simp [sharing, copiers, leads, here]
  · next elsewhere =>
      simp [sharing, copiers, split, leads, elsewhere]

/-- A move of a copier is one step of the drains of its sink, and none of the others. -/
theorem sharing_of_copier {number : Nat} {copier : Copier} (found : before.copiers[number]? = some copier)
    (moved : before.moveCopier host number copier = some after) (sink : Sink) {sharing : Sharing}
    (same : sharing.unseen = before.sharing sink) :
    ∃ later, Sharing.Run host sharing later ∧ later.unseen = after.sharing sink := by
  have buffer : sharing.buffer = before.taken sink := congrArg Sharing.buffer same
  obtain ⟨_, ⟨piece, pending, planned, copiers, taken⟩ | ⟨drain, bytes, planned, going, copiers, taken⟩⟩ :=
    copier_cases moved
  · have drains := sharing_set sink found copiers rfl
    split at drains
    · next here =>
        obtain ⟨front, back, first, second⟩ := drains
        have drainer : copier.drainer = ⟨[], piece :: pending, copier.drain⟩ := by rw [Copier.drainer, planned]
        rw [← congrArg Sharing.drainers same, drainer] at first
        obtain ⟨earlier, rest, seen, split, rfl, rfl⟩ := Sharing.exists_split first
        refine ⟨⟨sharing.buffer ++ piece, earlier ++ ⟨seen, pending, copier.drain⟩ :: rest⟩, .single ?_, ?_⟩
        · have step := @Sharing.Step.write host sharing.buffer piece pending earlier rest seen copier.drain
          rwa [← split] at step
        · have bytes := taken sink
          rw [if_pos here, ← buffer] at bytes
          simp only [Sharing.unseen, List.map_append, List.map_cons]
          exact congrArg₂ Sharing.mk bytes.symm second.symm
    · next elsewhere =>
        have bytes := taken sink
        rw [if_neg elsewhere, List.append_nil] at bytes
        exact ⟨sharing, .refl, same.trans (congrArg₂ Sharing.mk bytes.symm drains.symm)⟩
  · have drains := sharing_set sink found copiers rfl
    split at drains
    · obtain ⟨front, back, first, second⟩ := drains
      have drainer : copier.drainer = ⟨[], [], some drain⟩ := by rw [Copier.drainer, planned, going]
      rw [← congrArg Sharing.drainers same, drainer] at first
      obtain ⟨earlier, rest, seen, split, rfl, rfl⟩ := Sharing.exists_split first
      refine ⟨⟨sharing.buffer, earlier ++
        ⟨seen ++ [.data bytes], (drain.receive bytes).1.flatMap host.deliveries, (drain.receive bytes).2⟩ :: rest⟩,
        .single ?_, ?_⟩
      · have step := @Sharing.Step.read host sharing.buffer earlier rest seen drain (.data bytes)
        rwa [← split] at step
      · simp only [Sharing.unseen, List.map_append, List.map_cons]
        exact congrArg₂ Sharing.mk (buffer.trans (taken sink).symm) second.symm
    · exact ⟨sharing, .refl, same.trans (congrArg₂ Sharing.mk (taken sink).symm drains.symm)⟩

/-- A run of a pipeline is, for each of its sinks, a run of the drains that share it. -/
theorem exists_sharing {start state : State} {moves : List Move} (run : Run host start moves state) (sink : Sink) :
    ∃ sharing, Sharing.Run host (start.sharing sink) sharing ∧ sharing.unseen = state.sharing sink := by
  induction run with
  | idle =>
      refine ⟨_, .refl, ?_⟩
      simp only [Sharing.unseen, State.sharing, List.map_map]
      rfl
  | @move _ before after actor _ moved ih =>
      obtain ⟨sharing, shared, same⟩ := ih
      by_cases copies : ∃ number, actor = .copier number
      · obtain ⟨number, rfl⟩ := copies
        unfold State.move at moved
        split at moved
        · cases moved
        · simp only [State.turn] at moved
          split at moved
          · next copier found =>
              obtain ⟨later, run, result⟩ := sharing_of_copier found moved sink same
              exact ⟨later, shared.trans run, result⟩
          · cases moved
      · have remains := Remains.move (fun number same => copies ⟨number, same⟩) moved
        obtain ⟨count, added⟩ := sharing_of_remains remains sink
        refine ⟨_, shared.trans (Sharing.Run.starts sharing count), ?_⟩
        rw [added, ← same]
        simp [Sharing.unseen, Drainer.fresh]

end State

namespace Sharing

/-- Nothing is lost in a shared buffer and nothing is there twice: whatever the drains do
and in whatever order, the buffer goes on from what it was with an interleaving of what
each drain would have written alone, as far as it has come. The copiers of a sink are such
drains in every run of a pipeline. -/
theorem Run.shuffle (host : Host) :
    (∀ start after, Run host start after → ∃ (stints : List Stint) (added : Bytes),
      (∃ started, stints.map Stint.earlier = start.drainers ++ List.replicate started .fresh) ∧
      stints.map Stint.later = after.drainers ∧ (∀ stint ∈ stints, stint.Faithful) ∧
      after.buffer = start.buffer ++ added ∧ Interleaves (stints.map Stint.written) added) ∧
    ∀ start moves state sink, Pipeline.Run host start moves state →
      ∃ sharing, Run host (start.sharing sink) sharing ∧ sharing.unseen = state.sharing sink := by
  refine ⟨?_, fun start moves state sink run => State.exists_sharing run sink⟩
  intro start after run
  obtain ⟨stints, pieces, account⟩ := run.account
  refine ⟨stints, pieces.flatten, account.earlier, account.later, ?_, account.buffer, ?_⟩
  · exact fun stint member => (account.proper stint member).faithful
  · have bytes := account.interleaves.flatten
    rw [List.map_map] at bytes
    exact bytes

/-- Two drains with a line each, one of which gets between the text and the newline of
the other. Both lines are in the buffer all the same. -/
theorem Run.shuffle_torn :
    let host : Host := { Host.still with wholeLines := false }
    let first : Drainer := ⟨[.data [97, 10], .data []], [], none⟩
    let second : Drainer := ⟨[.data [98, 10], .data []], [], none⟩
    Run host ⟨[], []⟩ ⟨[97, 98, 10, 10], [first, second]⟩ ∧ first.isDone = true ∧ second.isDone = true ∧
      Drainer.fresh.alone first.seen = [97, 10] ∧ Drainer.fresh.alone second.seen = [98, 10] ∧
      ∃ (stints : List Stint) (added : Bytes), stints.map Stint.later = [first, second] ∧
        (∀ stint ∈ stints, stint.Faithful) ∧ [97, 98, 10, 10] = [] ++ added ∧
        Interleaves (stints.map Stint.written) added := by
  intro host first second
  have started : Run host ⟨[], []⟩ ⟨[], [.fresh, .fresh]⟩ := Run.starts ⟨[], []⟩ 2
  have texts : Run host ⟨[], [.fresh, .fresh]⟩
      ⟨[97, 98], [⟨[.data [97, 10]], [[10]], some {}⟩, ⟨[.data [98, 10]], [[10]], some {}⟩]⟩ :=
    (((Relation.ReflTransGen.single (@Step.read host [] [] [.fresh] [] {} (.data [97, 10]))).tail
      (@Step.read host [] [⟨[.data [97, 10]], [[97], [10]], some {}⟩] [] [] {} (.data [98, 10]))).tail
      (@Step.write host [] [97] [[10]] [] _ _ _)).tail
      (@Step.write host [97] [98] [[10]] [⟨[.data [97, 10]], [[10]], some {}⟩] [] _ _)
  have newlines : Run host
      ⟨[97, 98], [⟨[.data [97, 10]], [[10]], some {}⟩, ⟨[.data [98, 10]], [[10]], some {}⟩]⟩
      ⟨[97, 98, 10, 10], [first, second]⟩ :=
    (((Relation.ReflTransGen.single (@Step.write host [97, 98] [10] [] [] _ _ _)).tail
      (@Step.write host [97, 98, 10] [10] [] [⟨[.data [97, 10]], [], some {}⟩] [] _ _)).tail
      (@Step.read host _ [] _ [.data [97, 10]] {} (.data []))).tail
      (@Step.read host _ [first] [] [.data [98, 10]] {} (.data []))
  have run := (started.trans texts).trans newlines
  obtain ⟨stints, added, _, later, faithful, buffer, interleaves⟩ := (Run.shuffle host).1 _ _ run
  exact ⟨run, rfl, rfl, by decide, by decide, stints, added, later, faithful, buffer, interleaves⟩

end Sharing

end PipeShell.Pipeline
