import PipeShell.Proofs.Drain.Output
import PipeShell.Proofs.Text.Lines

/-! # How a stream arrives

As long as a stream goes on, it makes no difference into which reads it is cut and how
often a read is interrupted: its lines are delivered one after the other, unless the sink
fails. Decoding the whole stream first would make no difference either. -/

set_option autoImplicit false

namespace PipeShell

open Text (cutBehind)

namespace Reading

/-- The stream goes on after such a read: it gives some bytes, or it is repeated. -/
def GoesOn : Reading → Prop
  | .data bytes => bytes ≠ []
  | .failed failure => failure.kindOf = .interrupted

def given (readings : List Reading) : Bytes :=
  readings.flatMap fun
    | .data bytes => bytes
    | .failed _ => []

@[simp] theorem given_nil : given [] = [] := rfl

@[simp] theorem given_data (bytes : Bytes) (rest : List Reading) :
    given (.data bytes :: rest) = bytes ++ given rest := rfl

@[simp] theorem given_failed (failure : System.Failure) (rest : List Reading) :
    given (.failed failure :: rest) = given rest := rfl

private theorem given_append (front back : List Reading) : given (front ++ back) = given front ++ given back :=
  List.flatMap_append

theorem ofItems_append (front back : List Reading) : ofItems (front ++ back) = ofItems front ++ ofItems back :=
  List.flatMap_append

theorem ofItems_data (bytes : Bytes) (rest : List Reading) :
    ofItems (.data bytes :: rest) = (readsOf bytes).map .data ++ ofItems rest := rfl

theorem ofItems_failed (failure : System.Failure) (rest : List Reading) :
    ofItems (.failed failure :: rest) = .failed failure :: ofItems rest := rfl

private theorem given_map_data (pieces : List Bytes) : given (pieces.map .data) = pieces.flatten := by
  induction pieces with
  | nil => rfl
  | cons piece pieces ih => rw [List.map_cons, given_data, ih, List.flatten_cons]

/-- Reads that ask for less get the same. -/
theorem given_ofItems {items : List Reading} (steady : ∀ item ∈ items, item.GoesOn) :
    given (ofItems items) = given items ∧ ∀ reading ∈ ofItems items, reading.GoesOn := by
  induction items with
  | nil => exact ⟨rfl, fun reading member => nomatch member⟩
  | cons item rest ih =>
      obtain ⟨first, later⟩ := List.forall_mem_cons.mp steady
      obtain ⟨same, steadyRest⟩ := ih later
      cases item with
      | failed failure =>
          rw [ofItems_failed, given_failed, given_failed]
          exact ⟨same, List.forall_mem_cons.mpr ⟨first, steadyRest⟩⟩
      | data bytes =>
          obtain ⟨flatten, pieces⟩ := Drain.readsOf_spec first
          rw [ofItems_data, given_append, given_map_data, flatten, same, given_data]
          refine ⟨rfl, ?_⟩
          intro reading member
          rcases List.mem_append.mp member with here | behind
          · obtain ⟨piece, among, rfl⟩ := List.mem_map.mp here
            exact pieces piece among
          · exact steadyRest reading behind

end Reading

open Reading (given)

namespace Sink

theorem deliverAll_append (sink : Sink) (front back : List Bytes) :
    sink.deliverAll (front ++ back) =
      match sink.deliverAll front with
      | (after, some failure) => (after, some failure)
      | (after, none) => after.deliverAll back := by
  induction front generalizing sink with
  | nil => rfl
  | cons line front ih =>
      simp only [List.cons_append, deliverAll]
      split
      · rfl
      · exact ih _

/-- A sink sees the text of a line only. -/
theorem deliverAll_map {change : Bytes → Bytes} (sink : Sink) {lines : List Bytes}
    (same : ∀ line ∈ lines, Drain.lineText (change line) = Drain.lineText line) :
    sink.deliverAll (lines.map change) = sink.deliverAll lines := by
  induction lines generalizing sink with
  | nil => rfl
  | cons line lines ih =>
      obtain ⟨first, later⟩ := List.forall_mem_cons.mp same
      have delivered : sink.deliver (change line) = sink.deliver line := by
        simp only [deliver, first]
      simp only [List.map_cons, deliverAll, delivered]
      split
      · rfl
      · exact ih _ later

private theorem flushes_write (sink : Sink) (bytes : Bytes) : (sink.write bytes).1.flushes = sink.flushes := by
  unfold write
  split
  · rfl
  · split
    · rfl
    · rfl

/-- A line that was delivered was flushed once. -/
theorem flushes_deliver {sink after : Sink} {line : Bytes} (delivered : sink.deliver line = (after, none)) :
    after.flushes = sink.flushes + 1 := by
  unfold deliver at delivered
  split at delivered
  · cases delivered
  · next between written =>
      split at delivered
      · cases delivered
      · next last ended =>
          cases delivered
          have first := flushes_write sink (Drain.lineText line)
          have second := flushes_write between [newline]
          rw [written] at first
          rw [ended] at second
          rw [← first, ← second]
          rfl

private theorem flushes_deliverAll {sink after : Sink} {lines : List Bytes}
    (delivered : sink.deliverAll lines = (after, none)) : after.flushes = sink.flushes + lines.length := by
  induction lines generalizing sink with
  | nil =>
      cases delivered
      rfl
  | cons line lines ih =>
      unfold deliverAll at delivered
      split at delivered
      · cases delivered
      · next between first =>
          rw [ih delivered, flushes_deliver first, List.length_cons]
          omega

end Sink

namespace Drain

theorem closedLines_eq (bytes : Bytes) : closedLines bytes = cutBehind newline bytes := by
  induction bytes using Text.cutting newline with
  | last part clean =>
      rw [closedLines_of_clean clean]
      split
      · next nothing => rw [nothing]; rfl
      · next something => rw [Text.cutBehind_of_clean clean something]
  | line front rest clean ih =>
      rw [Text.cutBehind_line clean, ← ih, closedLines, splitLines_of_line clean, closedLines]
      split
      · rfl
      · rfl

/-- Copying as `copy` does it, together with the readings that are never asked for. -/
def copyLeaving (drain : Drain) (sink : Sink) : List Reading → (Sink × Option System.Failure) × List Reading
  | [] => (sink.deliverAll (drain.receive []).1, [])
  | .failed failure :: rest =>
    if failure.kindOf = .interrupted then drain.copyLeaving sink rest else ((sink, some failure), rest)
  | .data bytes :: rest =>
    match sink.deliverAll (drain.receive bytes).1, (drain.receive bytes).2 with
    | (after, some failure), _ => ((after, some failure), rest)
    | (after, none), none => ((after, none), rest)
    | (after, none), some next => next.copyLeaving after rest

theorem copyLeaving_fst (drain : Drain) (sink : Sink) (readings : List Reading) :
    (drain.copyLeaving sink readings).1 = drain.copy sink readings := by
  induction readings generalizing drain sink with
  | nil => rfl
  | cons reading rest ih =>
      cases reading with
      | failed failure =>
          simp only [copyLeaving, copy]
          split
          · exact ih drain sink
          · rfl
      | data bytes =>
          simp only [copyLeaving, copy]
          split
          · next delivered => simp only [delivered]
          · next delivered stopped => simp only [delivered, stopped]
          · next next delivered goes =>
              simp only [delivered, goes]
              exact ih next _

theorem receive_data {bytes : Bytes} (nonempty : bytes ≠ []) (drain : Drain) :
    drain.receive bytes =
      ((splitLines (drain.unfinished ++ bytes)).1, some ⟨(splitLines (drain.unfinished ++ bytes)).2⟩) := by
  rw [receive, List.isEmpty_eq_false_iff.mpr nonempty]
  rfl

/-- What a drain does while the stream goes on, whatever comes afterwards: it delivers
the lines that are complete, unless the sink fails. -/
theorem copyLeaving_append {front : List Reading} (steady : ∀ reading ∈ front, reading.GoesOn) {drain : Drain}
    (clean : newline ∉ drain.unfinished) (sink : Sink) (back : List Reading) :
    ∃ left, drain.copyLeaving sink (front ++ back) =
      match sink.deliverAll (splitLines (drain.unfinished ++ given front)).1 with
      | (after, some failure) => ((after, some failure), left ++ back)
      | (after, none) =>
        copyLeaving ⟨(splitLines (drain.unfinished ++ given front)).2⟩ after back := by
  induction front generalizing drain sink with
  | nil =>
      refine ⟨[], ?_⟩
      simp only [Reading.given_nil, List.append_nil, splitLines_of_clean clean, List.nil_append]
      rfl
  | cons reading rest ih =>
      obtain ⟨goesOn, later⟩ := List.forall_mem_cons.mp steady
      cases reading with
      | failed failure =>
          obtain ⟨left, same⟩ := ih later clean sink
          have repeated : failure.kindOf = .interrupted := goesOn
          refine ⟨left, ?_⟩
          rw [List.cons_append, copyLeaving, if_pos repeated, same, Reading.given_failed]
      | data bytes =>
          have cleanAfter := (splitLines_spec (drain.unfinished ++ bytes)).2
          rw [Reading.given_data, ← List.append_assoc, splitLines_append, Sink.deliverAll_append, List.cons_append,
            copyLeaving, receive_data goesOn]
          cases delivered : sink.deliverAll (splitLines (drain.unfinished ++ bytes)).1 with
          | mk after failed =>
              cases failed with
              | some failure => exact ⟨rest, rfl⟩
              | none => exact @ih later ⟨(splitLines (drain.unfinished ++ bytes)).2⟩ cleanAfter after

/-- The last line is delivered when the stream ends. -/
theorem cutBehind_eq_append (bytes : Bytes) :
    cutBehind newline bytes = (splitLines bytes).1 ++ (receive ⟨(splitLines bytes).2⟩ []).1 := by
  rw [← closedLines_eq, closedLines, receive]
  by_cases nothing : (splitLines bytes).2 = []
  · simp [nothing]
  · simp [nothing]

/-- A stream that goes on until it ends is delivered line by line. -/
theorem copy_of_steady {readings : List Reading} (steady : ∀ reading ∈ readings, reading.GoesOn) {drain : Drain}
    (clean : newline ∉ drain.unfinished) (sink : Sink) :
    drain.copy sink readings = sink.deliverAll (cutBehind newline (drain.unfinished ++ given readings)) := by
  obtain ⟨left, same⟩ := copyLeaving_append steady clean sink []
  rw [List.append_nil] at same
  rw [← copyLeaving_fst, same, cutBehind_eq_append, Sink.deliverAll_append]
  split
  · rfl
  · rfl

theorem run_of_steady {items : List Reading} (steady : ∀ item ∈ items, item.GoesOn) (sink : Sink) :
    run items sink = sink.deliverAll (cutBehind newline (given items)) := by
  obtain ⟨same, steadyReads⟩ := Reading.given_ofItems steady
  have clean : newline ∉ ({} : Drain).unfinished := fun member => nomatch member
  rw [run, copy_of_steady steadyReads clean, same]
  rfl

theorem run_data (bytes : Bytes) (sink : Sink) :
    run [.data bytes] sink = sink.deliverAll (cutBehind newline bytes) := by
  by_cases nothing : bytes = []
  · rw [nothing]
    cbv
  · have steady : ∀ item ∈ [Reading.data bytes], item.GoesOn := List.forall_mem_singleton.mpr nothing
    rw [run_of_steady steady, Reading.given_data, Reading.given_nil, List.append_nil]

/-- What a sink that takes everything gets when a stream is copied to it. -/
def copied (bytes : Bytes) : Bytes := (Drain.run [.data bytes] {}).1.taken

theorem copied_eq (bytes : Bytes) : copied bytes = image bytes := by
  have unlimited : ({} : Sink).room = none := rfl
  obtain ⟨after, delivered, _, taken⟩ := Sink.deliverAll_of_unlimited unlimited (cutBehind newline bytes)
  rw [copied, run_data, delivered, taken, image, closedLines_eq]
  rfl

/-! ## Bytes and the text that they are read as -/

theorem lineText_encode (text : List Char) : lineText (Text.encode text) = Text.encode (trimTerminators text) := by
  rw [lineText, Text.decodeLossy_encode]

/-- Drains copy what the bytes are read as. -/
theorem deliverAll_encode_decodeLossy (bytes : Bytes) (sink : Sink) :
    sink.deliverAll (cutBehind newline (Text.encode (Text.decodeLossy bytes))) =
      sink.deliverAll (cutBehind newline bytes) := by
  rw [Text.cutBehind_encode, Text.cutBehind_decodeLossy, List.map_map]
  refine sink.deliverAll_map ?_
  intro line _
  exact lineText_encode (Text.decodeLossy line)

/-- A drain that nothing stops makes the same of the same bytes, into whatever reads they
are cut and however often a read is interrupted: of each line its text without the line
terminators at its end, a newline, and one flush. It would do the same if it got the
bytes in one read, with all malformed units replaced, for cutting at the newlines does
not change how the bytes are read. -/
theorem run_of_arrivals (bytes : Bytes) (items : List Reading) (sink : Sink)
    (steady : ∀ item ∈ items, item.GoesOn) (arrived : given items = bytes) (unlimited : sink.room = none) :
    ∃ after, run items sink = (after, none) ∧
      after.taken = sink.taken ++ (cutBehind newline bytes).flatMap (fun line =>
        Text.encode ((Text.decodeLossy line).rdropWhile fun c => c = '\n' || c = '\r') ++ [newline]) ∧
      after.flushes = sink.flushes + (cutBehind newline bytes).length ∧
      run [.data (Text.encode (Text.decodeLossy bytes))] sink = (after, none) ∧
      Text.decodeLossy bytes = (cutBehind newline bytes).flatMap Text.decodeLossy := by
  obtain ⟨after, delivered, _, taken⟩ := sink.deliverAll_of_unlimited unlimited (cutBehind newline bytes)
  refine ⟨after, ?_, taken, Sink.flushes_deliverAll delivered, ?_, Text.decodeLossy_lines bytes⟩
  · rw [run_of_steady steady, arrived, delivered]
  · rw [run_data, deliverAll_encode_decodeLossy, delivered]

/-- A character and a line end are cut by the reads, and the last line has no end. -/
theorem run_of_arrivals_cut :
    let items : List Reading := [.data [0xC3], .failed (.bare .interrupted), .data [0xA9, 13], .data [10, 0xFF]]
    (∀ item ∈ items, item.GoesOn) ∧ given items = [0xC3, 0xA9, 13, 10, 0xFF] ∧ ({} : Sink).room = none ∧
      ∃ after, run items {} = (after, none) ∧ after.taken = bytesOf "é\n\uFFFD\n" ∧ after.flushes = 2 := by
  intro items
  have steady : ∀ item ∈ items, item.GoesOn := by simp [items, Reading.GoesOn, System.Failure.kindOf]
  obtain ⟨after, ran, taken, flushes, _, _⟩ := run_of_arrivals [0xC3, 0xA9, 13, 10, 0xFF] items {} steady rfl rfl
  refine ⟨steady, rfl, rfl, after, ran, ?_, ?_⟩
  · rw [taken]
    decide
  · rw [flushes]
    decide

end Drain

end PipeShell
