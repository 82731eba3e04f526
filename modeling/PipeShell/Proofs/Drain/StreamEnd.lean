import PipeShell.Proofs.Drain.Arrivals

/-! # The end of a stream

A drain learns of the end of its stream by a read that gives nothing. If no line is open
it reads no more. If one is, it delivers it and reads once more, so a stream that has more
to give after its end goes on. -/

set_option autoImplicit false

namespace PipeShell

open Reading (given ofItems)

namespace Drain

/-- Draining a stream as `run` does it, together with the readings that are never asked
for. -/
def runLeaving (items : List Reading) (sink : Sink) : (Sink × Option System.Failure) × List Reading :=
  copyLeaving {} sink (ofItems items)

theorem runLeaving_fst (items : List Reading) (sink : Sink) : (runLeaving items sink).1 = run items sink :=
  copyLeaving_fst {} sink (ofItems items)

/-- No line is open behind the bytes. -/
def Settled (bytes : Bytes) : Prop := ∀ b, bytes.getLast? = some b → b = newline

theorem unfinished_eq_nil_iff (bytes : Bytes) : (splitLines bytes).2 = [] ↔ Settled bytes := by
  induction bytes using Text.cutting newline with
  | last part clean =>
      rw [splitLines_of_clean clean]
      constructor
      · rintro rfl b found
        cases found
      · intro settled
        cases found : part.getLast? with
        | none => exact List.getLast?_eq_none_iff.mp found
        | some b => exact absurd (List.mem_of_getLast? found) (settled b found ▸ clean)
  | line front rest clean ih =>
      rw [splitLines_of_line clean, ih]
      cases rest with
      | nil => simp [Settled]
      | cons b rest => simp [Settled, List.getLast?_append, List.getLast?_cons]

/-- A drain at the end of its stream. -/
theorem copyLeaving_end (drain : Drain) (sink : Sink) (after : List Reading) :
    drain.copyLeaving sink (.data [] :: after) =
      if drain.unfinished = [] then ((sink, none), after)
      else
        match sink.deliverAll [drain.unfinished] with
        | (full, some failure) => ((full, some failure), after)
        | (next, none) => copyLeaving {} next after := by
  by_cases nothing : drain.unfinished = []
  · simp [copyLeaving, receive, nothing, Sink.deliverAll]
  · simp only [copyLeaving, receive, nothing, List.isEmpty_nil, List.isEmpty_iff, if_true, if_false]
    split
    · next delivered => simp only [delivered]
    · next stopped => cases stopped
    · next delivered goes =>
        cases goes
        simp only [delivered]

/-- Draining stops at the first end of the stream if no line is open there: what was
delivered are the lines that came before, and nothing that comes later is asked for. An
open line is delivered as well, but unless the sink fails the stream is then read on as
if it were a new one. -/
theorem runLeaving_of_end (before after : List Reading) (sink : Sink) (steady : ∀ item ∈ before, item.GoesOn) :
    let lines := Text.cutBehind newline (given before)
    (Settled (given before) → ∃ left,
      runLeaving (before ++ .data [] :: after) sink = (sink.deliverAll lines, left ++ ofItems after) ∧
        ((sink.deliverAll lines).2 = none → left = [])) ∧
    (¬Settled (given before) → ∀ next, sink.deliverAll lines = (next, none) →
      runLeaving (before ++ .data [] :: after) sink = runLeaving after next) := by
  intro lines
  obtain ⟨same, steadyReads⟩ := Reading.given_ofItems steady
  have clean : newline ∉ ({} : Drain).unfinished := fun member => nomatch member
  obtain ⟨left, reads⟩ := copyLeaving_append steadyReads clean sink (.data [] :: ofItems after)
  have cut : lines = (splitLines (given before)).1 ++ (receive ⟨(splitLines (given before)).2⟩ []).1 :=
    cutBehind_eq_append (given before)
  have items : ofItems (before ++ .data [] :: after) = ofItems before ++ .data [] :: ofItems after := by
    rw [Reading.ofItems_append, Reading.ofItems_data, readsOf_nil]
    rfl
  rw [List.nil_append, same] at reads
  rw [cut, runLeaving, items, reads, Sink.deliverAll_append]
  constructor
  · intro settled
    rw [(unfinished_eq_nil_iff _).mpr settled]
    cases delivered : sink.deliverAll (splitLines (given before)).1 with
    | mk next failed =>
        cases failed with
        | some failure => exact ⟨left ++ [.data []], by simp, fun complete => nomatch complete⟩
        | none => exact ⟨[], copyLeaving_end _ next _, fun _ => rfl⟩
  · intro unsettled next complete
    have opened := mt (unfinished_eq_nil_iff _).mp unsettled
    cases delivered : sink.deliverAll (splitLines (given before)).1 with
    | mk between failed =>
        rw [delivered] at complete
        cases failed with
        | some failure => cases complete
        | none =>
            have last : between.deliverAll [(splitLines (given before)).2] = (next, none) := by
              simpa [receive, opened] using complete
            simp only [copyLeaving_end, if_neg opened, last]
            rfl

/-- The stream ends behind a newline and has more to give, which nobody asks for. -/
theorem runLeaving_of_end_settled :
    let before : List Reading := [.data [97], .failed (.bare .interrupted), .data [98, 10]]
    (∀ item ∈ before, item.GoesOn) ∧ Settled (given before) ∧
      (runLeaving (before ++ [.data [], .data [99, 10]]) {}).1.1.taken = [97, 98, 10] ∧
      (runLeaving (before ++ [.data [], .data [99, 10]]) {}).2 = [.data [99, 10]] := by
  intro before
  have steady : ∀ item ∈ before, item.GoesOn := by simp [before, Reading.GoesOn, System.Failure.kindOf]
  have settled : Settled (given before) := by
    intro b found
    exact (Option.some.inj found).symm
  obtain ⟨left, ran, complete⟩ := (runLeaving_of_end before [.data [99, 10]] {} steady).1 settled
  obtain rfl := complete (by decide)
  rw [ran]
  exact ⟨steady, settled, by decide, by cbv⟩

/-- The stream ends within a line, and all that it has to give afterwards is read. -/
theorem not_runLeaving_of_end :
    ¬∀ (before after : List Reading) (sink : Sink), (∀ item ∈ before, item.GoesOn) → ∃ left,
      runLeaving (before ++ .data [] :: after) sink =
        (sink.deliverAll (Text.cutBehind newline (given before)), left ++ ofItems after) := by
  intro stops
  have steady : ∀ item ∈ [Reading.data [97]], item.GoesOn := by simp [Reading.GoesOn]
  obtain ⟨left, ran⟩ := stops [.data [97]] [.data [98, 10]] {} steady
  have none : (runLeaving [.data [97], .data [], .data [98, 10]] {}).2 = [] := by cbv
  have unread : left ++ ofItems [.data [98, 10]] = [] := (congrArg Prod.snd ran).symm.trans none
  have one : ofItems [.data [98, 10]] = [.data [98, 10]] := by cbv
  rw [one] at unread
  exact List.concat_ne_nil _ _ unread

end Drain

end PipeShell
