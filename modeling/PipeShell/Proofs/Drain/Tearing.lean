import PipeShell.Proofs.Drain.Lines
import PipeShell.Proofs.Drain.Sharing
import PipeShell.Proofs.Pipeline.Execution

/-! # Lines in a shared buffer

If every delivery is one write, the lines in a buffer that drains share are lines of one
drain each. If the text and its newline are two writes, another drain can come between
them. -/

set_option autoImplicit false

namespace PipeShell

open PipeShell.System

namespace Drain

/-- Bytes without a newline, or one line with its newline. -/
def Single (line : Bytes) : Prop := newline ∉ line ∨ IsLine line

theorem isLine_delivered {line : Bytes} (single : Single line) : IsLine (delivered line) :=
  ⟨lineText line, clean_lineText single, rfl⟩

/-- A drain that waits for the rest of a line holds no newline. -/
def Waits (drain : Option Drain) : Prop := ∀ between, drain = some between → newline ∉ between.unfinished

theorem hear_single {drain : Drain} (clean : newline ∉ drain.unfinished) (reading : Reading) :
    (∀ line ∈ (drain.hear reading).1, Single line) ∧ Waits (drain.hear reading).2 := by
  cases reading with
  | failed failure =>
      refine ⟨fun line member => (by cases member), ?_⟩
      intro between same
      simp only [hear] at same
      split at same
      · cases same
        exact clean
      · cases same
  | data bytes =>
      simp only [hear, receive]
      split
      · split
        · exact ⟨fun line member => (by cases member), fun _ same => by cases same⟩
        · refine ⟨?_, ?_⟩
          · intro line member
            obtain rfl := List.mem_singleton.mp member
            exact .inl clean
          · intro between same
            cases same
            exact fun member => by cases member
      · obtain ⟨lines, rest⟩ := splitLines_spec (drain.unfinished ++ bytes)
        refine ⟨fun line member => .inr (lines line member), ?_⟩
        intro between same
        cases same
        exact rest

theorem feed_single {drain : Option Drain} (waits : Waits drain) (readings : List Reading) :
    (∀ line ∈ (feed drain readings).1, Single line) ∧ Waits (feed drain readings).2 := by
  induction readings generalizing drain with
  | nil => cases drain <;> exact ⟨fun line member => (nomatch member), waits⟩
  | cons reading rest ih =>
      cases drain with
      | none => exact ⟨fun line member => (nomatch member), fun _ same => nomatch same⟩
      | some drain =>
          obtain ⟨first, after⟩ := hear_single (waits drain rfl) reading
          obtain ⟨more, last⟩ := ih after
          refine ⟨?_, last⟩
          intro line member
          rcases List.mem_append.mp member with here | later
          · exact first line here
          · exact more line later

private theorem closing_single {drain : Option Drain} (waits : Waits drain) : ∀ line ∈ closing drain, Single line := by
  cases drain with
  | none => exact fun line member => nomatch member
  | some drain => exact (hear_single (waits drain rfl) (.data [])).1

/-- The lines of everything that a drain delivers are its deliveries. -/
theorem splitLines_output {drain : Option Drain} (waits : Waits drain) (readings : List Reading) :
    splitLines (output drain readings) =
      (((feed drain readings).1 ++ closing (feed drain readings).2).map delivered, []) := by
  rw [output_eq, List.flatMap_def]
  refine splitLines_flatten ?_
  obtain ⟨fed, after⟩ := feed_single waits readings
  intro piece member
  obtain ⟨line, among, rfl⟩ := List.mem_map.mp member
  rcases List.mem_append.mp among with read | left
  · exact isLine_delivered (fed line read)
  · exact isLine_delivered (closing_single after line left)

end Drain

namespace Pipeline

namespace Sharing

private theorem Account.written_whole {host : Host} (whole : host.wholeLines = true) {start after : Sharing}
    {stints : List Stint} {pieces : List Bytes} (fresh : start.drainers = [])
    (account : Account host start after stints pieces) : ∀ piece ∈ pieces, ∃ drainer ∈ after.drainers,
      ∃ line ∈ (Drain.feed (some {}) drainer.seen).1, piece = Drain.delivered line := by
  have single : host.deliveries = fun line => [Drain.delivered line] := by
    funext line
    simp [Host.deliveries, whole, Drain.delivered]
  intro piece member
  obtain ⟨part, among, found⟩ := account.interleaves.exists_mem member
  obtain ⟨stint, stintMember, rfl⟩ := List.mem_map.mp among
  obtain ⟨readings, seen, writes, _⟩ := account.proper stint stintMember
  -- No drain was there at the start, so each has read all that it has seen since.
  have earlier : stint.earlier = .fresh := by
    obtain ⟨started, same⟩ := account.earlier
    rw [fresh, List.nil_append] at same
    exact List.eq_of_mem_replicate (same ▸ List.mem_map_of_mem stintMember)
  rw [earlier] at seen writes
  have delivered : piece ∈ ((Drain.feed (some {}) readings).1.flatMap host.deliveries) := by
    have all : piece ∈ stint.pieces ++ stint.later.pending := List.mem_append_left _ found
    rw [writes] at all
    exact all
  rw [single] at delivered
  obtain ⟨line, lineMember, same⟩ := List.mem_flatMap.mp delivered
  refine ⟨stint.later, account.later ▸ List.mem_map_of_mem stintMember, line, ?_, List.mem_singleton.mp same⟩
  rw [seen]
  exact lineMember

/-- If a sink takes a line and its newline in one write, then every line in a shared
buffer was there before or is a whole line of what one of the drains delivers. -/
theorem Run.whole_lines {host : Host} (whole : host.wholeLines = true) {before : Bytes} {after : Sharing}
    (closed : (Drain.splitLines before).2 = []) (run : Run host ⟨before, []⟩ after) :
    (Drain.splitLines after.buffer).2 = [] ∧ ∀ line ∈ (Drain.splitLines after.buffer).1,
      line ∈ (Drain.splitLines before).1 ∨
        ∃ drainer ∈ after.drainers, line ∈ (Drain.splitLines (Drain.output (some {}) drainer.seen)).1 := by
  obtain ⟨stints, pieces, account⟩ := run.account
  have fresh : Drain.Waits (some {}) := by
    intro between same
    cases same
    exact fun member => nomatch member
  have writes := account.written_whole whole rfl
  have lines : Drain.splitLines pieces.flatten = (pieces, []) := by
    refine Drain.splitLines_flatten ?_
    intro piece member
    obtain ⟨drainer, _, line, fed, rfl⟩ := writes piece member
    exact Drain.isLine_delivered ((Drain.feed_single fresh drainer.seen).1 line fed)
  have split : Drain.splitLines after.buffer = ((Drain.splitLines before).1 ++ pieces, []) := by
    rw [account.buffer, Drain.splitLines_append, closed, List.nil_append, lines]
  rw [split]
  refine ⟨rfl, ?_⟩
  intro line member
  rcases List.mem_append.mp member with old | new
  · exact .inl old
  · obtain ⟨drainer, among, fed, fedMember, rfl⟩ := writes line new
    refine .inr ⟨drainer, among, ?_⟩
    rw [Drain.splitLines_output fresh]
    exact List.mem_map_of_mem (List.mem_append_left _ fedMember)

/-- Two drains deliver a line each, and the second one is faster. -/
theorem whole_lines_ba :
    let first : Drainer := ⟨[.data [97, 10]], [], some {}⟩
    let second : Drainer := ⟨[.data [98, 10]], [], some {}⟩
    Run Host.still ⟨[], []⟩ ⟨[98, 10, 97, 10], [first, second]⟩ ∧
      ∀ line ∈ (Drain.splitLines [98, 10, 97, 10]).1, line ∈ (Drain.splitLines []).1 ∨
        ∃ drainer ∈ [first, second], line ∈ (Drain.splitLines (Drain.output (some {}) drainer.seen)).1 := by
  intro first second
  have started : Run Host.still ⟨[], []⟩ ⟨[], [.fresh, .fresh]⟩ := .tail (.single (@Step.start _ [] [])) .start
  have read : Run Host.still ⟨[], [.fresh, .fresh]⟩
      ⟨[], [⟨[.data [97, 10]], [[97, 10]], some {}⟩, ⟨[.data [98, 10]], [[98, 10]], some {}⟩]⟩ :=
    .tail (.single (@Step.read _ [] [] [.fresh] [] {} (.data [97, 10])))
      (@Step.read _ [] [⟨[.data [97, 10]], [[97, 10]], some {}⟩] [] [] {} (.data [98, 10]))
  have wrote : Run Host.still
      ⟨[], [⟨[.data [97, 10]], [[97, 10]], some {}⟩, ⟨[.data [98, 10]], [[98, 10]], some {}⟩]⟩
      ⟨[98, 10, 97, 10], [first, second]⟩ :=
    .tail (.single (@Step.write _ [] [98, 10] [] [⟨[.data [97, 10]], [[97, 10]], some {}⟩] [] _ _))
      (@Step.write _ [98, 10] [97, 10] [] [] [second] _ _)
  have run := (started.trans read).trans wrote
  exact ⟨run, (Run.whole_lines rfl rfl run).2⟩

end Sharing

/-- Two stages write a line each to their errors. The drain of the second one comes
between the text of the first line and its newline, so neither line is there in the end. -/
theorem State.exists_torn_line :
    let host : Host := { Host.still with
      wholeLines := false
      capacity := 2
      start := fun pid _ _ => .ok (.write 2 [if pid = 2 then 97 else 98, 10] fun _ => .exit .success) }
    let start := (State.idle .empty .null).prepared .empty {} { stages := [⟨["left"]⟩, ⟨["right"]⟩] }
    ∃ moves state, Run host start moves state ∧
      state.conductor.outcome = some (.ok (.foreground [⟨"left", .success⟩, ⟨"right", .success⟩])) ∧
      state.complaints.toList = [97, 98, 10, 10] ∧
      ∃ line ∈ (Drain.splitLines state.complaints.toList).1, ∀ written ∈ [[97, 10], [98, 10]],
        line ∉ (Drain.splitLines (Drain.run [.data written] {}).1.taken).1 := by
  intro host start
  -- The stages are started and write, then the drains take turns, and then everybody ends.
  have followed : (start.follow host [.conductor, .conductor, .conductor, .process 0, .process 1, .copier 0, .copier 1,
      .copier 0, .copier 1, .copier 0, .copier 1, .process 0, .process 1, .conductor, .conductor, .copier 0, .copier 1,
      .copier 2, .conductor, .conductor, .conductor, .conductor]).map
        (fun state => (state.conductor.outcome, state.complaints.toList)) =
      some (some (.ok (.foreground [⟨"left", .success⟩, ⟨"right", .success⟩])), [97, 98, 10, 10]) := by cbv
  obtain ⟨state, reached, same⟩ := Option.map_eq_some_iff.mp followed
  obtain ⟨outcome, complaints⟩ := Prod.mk.inj same
  obtain ⟨moves, run⟩ := State.exists_run_of_follow reached
  refine ⟨moves, state, run, outcome, complaints, [97, 98, 10], ?_, ?_⟩
  · rw [complaints]
    decide
  · intro written member
    have left : (Drain.run [.data [97, 10]] {}).1.taken = [97, 10] := by cbv
    have right : (Drain.run [.data [98, 10]] {}).1.taken = [98, 10] := by cbv
    rcases List.mem_cons.mp member with rfl | last
    · rw [left]
      decide
    · rw [List.mem_singleton.mp last, right]
      decide

end Pipeline

end PipeShell
