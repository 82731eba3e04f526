import PipeShell.Drain
import PipeShell.Proofs.Drain.Lines

/-! # What a drain delivers

A drain hears one reading after the other. What it delivers to a sink that takes
everything depends on the readings alone, so it can be told in advance for every
stream. However a stream is cut into reads, its lines are delivered one after the
other. -/

set_option autoImplicit false

namespace PipeShell

namespace Drain

def delivered (line : Bytes) : Bytes := lineText line ++ [newline]

/-- What a drain does with one reading: the lines it delivers, and how it goes on, if it
does. -/
def hear (drain : Drain) : Reading → List Bytes × Option Drain
  | .data bytes => drain.receive bytes
  | .failed failure => ([], if failure.kindOf = .interrupted then some drain else none)

/-- What a drain does with several readings, unless it has stopped before. -/
def feed : Option Drain → List Reading → List Bytes × Option Drain
  | none, _ => ([], none)
  | some drain, [] => ([], some drain)
  | some drain, reading :: rest =>
    let (lines, after) := drain.hear reading
    let (more, last) := feed after rest
    (lines ++ more, last)

/-- The lines that are still delivered if the stream ends here. -/
def closing : Option Drain → List Bytes
  | none => []
  | some drain => (drain.receive []).1

/-- Everything that a drain delivers, unless it has stopped before, if the stream ends
after these readings. -/
def output (drain : Option Drain) (readings : List Reading) : Bytes :=
  match drain with
  | none => []
  | some drain => (drain.copy {} readings).1.taken

end Drain

/-! ## Sinks that take everything -/

namespace Sink

private theorem deliver_of_unlimited {sink : Sink} (unlimited : sink.room = none) (line : Bytes) :
    ∃ after, sink.deliver line = (after, none) ∧ after.room = none ∧
      after.taken = sink.taken ++ Drain.delivered line := by
  obtain ⟨pieces, room, flushes⟩ := sink
  obtain rfl : room = none := unlimited
  exact ⟨_, rfl, rfl, by simp [flush, taken, Drain.delivered]⟩

theorem deliverAll_of_unlimited {sink : Sink} (unlimited : sink.room = none) (lines : List Bytes) :
    ∃ after, sink.deliverAll lines = (after, none) ∧ after.room = none ∧
      after.taken = sink.taken ++ lines.flatMap Drain.delivered := by
  induction lines generalizing sink with
  | nil => exact ⟨sink, rfl, unlimited, by simp⟩
  | cons line rest ih =>
      obtain ⟨middle, delivered, middleRoom, middleTaken⟩ := deliver_of_unlimited unlimited line
      obtain ⟨after, all, room, taken⟩ := ih middleRoom
      refine ⟨after, ?_, room, ?_⟩
      · simp only [deliverAll, delivered, all]
      · rw [taken, middleTaken, List.flatMap_cons, List.append_assoc]

end Sink

namespace Drain

theorem feed_none (readings : List Reading) : feed none readings = ([], none) := by
  cases readings <;> rfl

theorem feed_append (drain : Option Drain) (readings more : List Reading) :
    feed drain (readings ++ more) =
      ((feed drain readings).1 ++ (feed (feed drain readings).2 more).1, (feed (feed drain readings).2 more).2) := by
  induction readings generalizing drain with
  | nil => cases drain <;> simp [feed, feed_none]
  | cons reading rest ih =>
      cases drain with
      | none => simp [feed_none]
      | some drain => simp [feed, ih]

theorem feed_singleton (drain : Drain) (reading : Reading) : feed (some drain) [reading] = drain.hear reading := by
  simp only [feed]
  cases after : (drain.hear reading).2 with
  | none => simp [feed, ← after]
  | some next => simp [feed, ← after]

/-- A drain that nothing stops delivers what its readings give it, and at the end what is
left. -/
theorem copy_of_unlimited (drain : Drain) {sink : Sink} (unlimited : sink.room = none) (readings : List Reading) :
    (drain.copy sink readings).1.taken = sink.taken ++
      ((feed (some drain) readings).1 ++ closing (feed (some drain) readings).2).flatMap delivered := by
  induction readings generalizing drain sink with
  | nil =>
      obtain ⟨after, all, _, taken⟩ := sink.deliverAll_of_unlimited unlimited (drain.receive []).1
      simp only [copy, all, taken, feed, closing, List.nil_append]
  | cons reading rest ih =>
      cases reading with
      | failed failure =>
          simp only [copy, feed, hear]
          split
          · simpa using ih drain unlimited
          · simp [feed_none, closing]
      | data bytes =>
          obtain ⟨after, all, room, taken⟩ := sink.deliverAll_of_unlimited unlimited (drain.receive bytes).1
          simp only [copy, feed, hear, all]
          cases (drain.receive bytes).2 with
          | none => simp [taken, feed_none, closing]
          | some next => simp [ih next room, taken]

theorem output_eq (drain : Option Drain) (readings : List Reading) :
    output drain readings = ((feed drain readings).1 ++ closing (feed drain readings).2).flatMap delivered := by
  cases drain with
  | none => simp [output, feed_none, closing]
  | some drain => simpa [output, Sink.taken] using @copy_of_unlimited drain {} rfl readings

end Drain

end PipeShell

/-! ## What a drain makes of a whole stream

However a stream is cut into reads, a drain delivers its lines one after the other, and
at the end what is left of the last one. -/

namespace PipeShell.Drain

/-- The lines of a whole stream. Only the last one can be without a newline. -/
def closedLines (bytes : Bytes) : List Bytes :=
  if (splitLines bytes).2 = [] then (splitLines bytes).1 else (splitLines bytes).1 ++ [(splitLines bytes).2]

def image (bytes : Bytes) : Bytes := (closedLines bytes).flatMap delivered

theorem image_nil : image [] = [] := rfl

private theorem closedLines_append (front back : Bytes) :
    closedLines (front ++ back) = (splitLines front).1 ++ closedLines ((splitLines front).2 ++ back) := by
  unfold closedLines
  rw [splitLines_append]
  dsimp only
  split
  · rfl
  · rw [List.append_assoc]

private theorem image_append (front back : Bytes) :
    image (front ++ back) = (splitLines front).1.flatMap delivered ++ image ((splitLines front).2 ++ back) := by
  rw [image, closedLines_append, List.flatMap_append]
  rfl

theorem closedLines_of_clean {text : Bytes} (clean : newline ∉ text) :
    closedLines text = if text = [] then [] else [text] := by
  unfold closedLines
  rw [splitLines_of_clean clean]
  rfl

/-- A read that gives something delivers the lines it completes and leaves the rest for
later. -/
theorem image_receive (drain : Drain) {data : Bytes} (nonempty : data ≠ []) (rest : Bytes) :
    ∃ after, (drain.receive data).2 = some after ∧
      image (drain.unfinished ++ (data ++ rest)) =
        (drain.receive data).1.flatMap delivered ++ image (after.unfinished ++ rest) := by
  refine ⟨⟨(splitLines (drain.unfinished ++ data)).2⟩, ?_, ?_⟩
  · simp [receive, nonempty]
  · rw [← List.append_assoc, image_append]
    simp [receive, nonempty]

/-- The end of the stream delivers what is left. -/
theorem image_close {drain : Drain} (clean : newline ∉ drain.unfinished) :
    image drain.unfinished = (drain.receive []).1.flatMap delivered := by
  rw [image, closedLines_of_clean clean, receive]
  by_cases nothing : drain.unfinished = []
  · simp [nothing]
  · simp [nothing]

/-! ## Reads of a whole stream -/

theorem readsOf_nil : readsOf [] = [[]] := by
  unfold readsOf
  rfl

theorem readsOf_spec {bytes : Bytes} (nonempty : bytes ≠ []) :
    (readsOf bytes).flatten = bytes ∧ ∀ piece ∈ readsOf bytes, piece ≠ [] := by
  fun_induction readsOf bytes with
  | case1 bytes short => simpa using nonempty
  | case2 bytes long ih =>
      have left : bytes.drop readLimit ≠ [] := by
        simp only [ne_eq, List.drop_eq_nil_iff]
        omega
      obtain ⟨flatten, pieces⟩ := ih left
      constructor
      · rw [List.flatten_cons, flatten, List.take_append_drop]
      · intro piece member
        rcases List.mem_cons.mp member with rfl | later
        · simp [nonempty, readLimit]
        · exact pieces piece later

end PipeShell.Drain
