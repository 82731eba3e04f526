import PipeShell.LineReader
import PipeShell.Proofs.Drain.Arrivals

/-! # Carriage returns in front of a line end

A drain trims the end of a line, and not only the line end. So a line stays what it is
unless it ends in a carriage return of its own: then it loses all that stand there, also
where the stream ends before the line does. -/

set_option autoImplicit false

namespace PipeShell

open LineReader (trimLineEnd)
open Reading (given)

namespace Text

/-- The lines of a text without their ends: a line feed, with or without one carriage
return in front. -/
def lines (text : List Char) : List (List Char) := (cutBehind '\n' text).map trimLineEnd

private theorem encode_injective : Function.Injective encode := Function.LeftInverse.injective decodeLossy_encode

theorem trimLineEnd_clean {text : List Char} (clean : '\n' ∉ text) : trimLineEnd text = text := by
  obtain rfl | ⟨front, last, rfl⟩ := List.eq_nil_or_concat' text
  · rfl
  · have other : last ≠ '\n' := by
      rintro rfl
      exact clean (by simp)
    unfold trimLineEnd
    rw [List.reverse_concat]
    split
    · next same => exact absurd (List.cons.inj same).1 other
    · next same => exact absurd (List.cons.inj same).1 other
    · rfl

/-- A line end takes at most carriage returns with it. -/
theorem exists_trimLineEnd (text : List Char) :
    ∃ returns, text = trimLineEnd (text ++ ['\n']) ++ returns ∧ ∀ c ∈ returns, c = '\r' := by
  obtain rfl | ⟨front, last, rfl⟩ := List.eq_nil_or_concat' text
  · exact ⟨[], rfl, fun c member => nomatch member⟩
  · unfold trimLineEnd
    rw [List.reverse_concat, List.reverse_concat]
    split
    · next same =>
        obtain ⟨rfl, rfl⟩ := List.cons.inj (List.cons.inj same).2
        exact ⟨['\r'], by rw [List.reverse_reverse], fun c member => List.mem_singleton.mp member⟩
    · next same =>
        refine ⟨[], ?_, fun c member => nomatch member⟩
        rw [← (List.cons.inj same).2, List.reverse_cons, List.reverse_reverse, List.append_nil]
    · next unended => exact absurd rfl (unended _)

private theorem clean_of_mem_lines {text line : List Char} (member : line ∈ lines text) : '\n' ∉ line := by
  obtain ⟨part, among, rfl⟩ := List.mem_map.mp member
  obtain ⟨front, clean, rfl | ⟨rfl, _⟩⟩ := part_of_cutBehind among
  · obtain ⟨returns, same, _⟩ := exists_trimLineEnd front
    rw [same] at clean
    exact fun inside => clean (List.mem_append_left _ inside)
  · rw [trimLineEnd_clean clean]
    exact clean

end Text

open Text (lines)

namespace Drain

theorem trimTerminators_clean {text : List Char} (clean : '\n' ∉ text) :
    trimTerminators text = text.rdropWhile (· = '\r') := by
  show text.rdropWhile isTerminator = _
  induction text using List.reverseRecOn with
  | nil => rfl
  | append_singleton text last ih =>
      obtain ⟨cleanText, other⟩ : '\n' ∉ text ∧ last ≠ '\n' := by
        simpa [eq_comm (a := '\n')] using clean
      rw [List.rdropWhile_concat, List.rdropWhile_concat, ih cleanText]
      simp [isTerminator, other]

/-- What a line loses in addition to its end are carriage returns. -/
theorem trimTerminators_part {text part : List Char} (member : part ∈ Text.cutBehind '\n' text) :
    trimTerminators part = (trimLineEnd part).rdropWhile (· = '\r') := by
  obtain ⟨front, clean, rfl | ⟨rfl, _⟩⟩ := Text.part_of_cutBehind member
  · obtain ⟨returns, same, all⟩ := Text.exists_trimLineEnd front
    rw [trimTerminators_newline, trimTerminators_clean clean]
    have dropped : ∀ c ∈ returns.reverse, decide (c = '\r') = true := by
      intro c member
      exact decide_eq_true (all c (List.mem_reverse.mp member))
    conv_lhs => rw [same]
    rw [List.rdropWhile, List.reverse_append, List.dropWhile_append_of_pos dropped]
    rfl
  · rw [Text.trimLineEnd_clean clean, trimTerminators_clean clean]

private theorem flatMap_delivered_encode (text : List Char) :
    (Text.cutBehind newline (Text.encode text)).flatMap delivered =
      (lines text).flatMap fun line => Text.encode (line.rdropWhile (· = '\r')) ++ [newline] := by
  rw [Text.cutBehind_encode, lines, List.flatMap_map, List.flatMap_map]
  refine List.flatMap_congr ?_
  intro part member
  rw [delivered, lineText_encode, trimTerminators_part member]

/-- Lines with their newlines can be told apart in what they are put together to. -/
theorem flatMap_line_inj {lines : List (List Char)} {first second : List Char → List Char}
    (clean : ∀ line ∈ lines, '\n' ∉ first line ∧ '\n' ∉ second line) :
    (lines.flatMap fun line => Text.encode (first line) ++ [newline]) =
        (lines.flatMap fun line => Text.encode (second line) ++ [newline]) ↔
      ∀ line ∈ lines, first line = second line := by
  have split {text : List Char → List Char} (without : ∀ line ∈ lines, '\n' ∉ text line) :
      splitLines (lines.flatMap fun line => Text.encode (text line) ++ [newline]) =
        (lines.map fun line => Text.encode (text line) ++ [newline], []) := by
    rw [List.flatMap_def]
    refine splitLines_flatten ?_
    intro piece member
    obtain ⟨line, among, rfl⟩ := List.mem_map.mp member
    exact ⟨Text.encode (text line), Text.clean_encode (without line among), rfl⟩
  constructor
  · intro same line member
    have lists := congrArg (fun bytes => (splitLines bytes).1) same
    rw [split fun line member => (clean line member).1, split fun line member => (clean line member).2] at lists
    have pieces := List.map_inj_left.mp lists line member
    exact Text.encode_injective (List.append_cancel_right pieces)
  · intro same
    refine List.flatMap_congr ?_
    intro line member
    rw [same line member]

/-- A drain that nothing stops delivers the lines of a text, each without the carriage
returns that it ends in. So it delivers the lines as they are if and only if none of them
ends in one. -/
theorem run_of_text (text : List Char) (items : List Reading) (sink : Sink)
    (steady : ∀ item ∈ items, item.GoesOn) (arrived : given items = Text.encode text)
    (unlimited : sink.room = none) : ∃ after, run items sink = (after, none) ∧
      (after.taken = sink.taken ++ (lines text).flatMap fun line =>
        Text.encode (line.rdropWhile (· = '\r')) ++ [newline]) ∧
      ((after.taken = sink.taken ++ (lines text).flatMap fun line => Text.encode line ++ [newline]) ↔
        ∀ line ∈ lines text, line.getLast? ≠ some '\r') := by
  obtain ⟨after, delivered, _, taken⟩ :=
    sink.deliverAll_of_unlimited unlimited (Text.cutBehind newline (given items))
  rw [arrived, flatMap_delivered_encode] at taken
  have clean : ∀ line ∈ lines text, '\n' ∉ line.rdropWhile (· = '\r') ∧ '\n' ∉ line := by
    intro line member
    have whole := Text.clean_of_mem_lines member
    exact ⟨fun inside => whole ((List.rdropWhile_prefix _ line).subset inside), whole⟩
  refine ⟨after, by rw [run_of_steady steady, delivered], taken, ?_⟩
  rw [taken, List.append_cancel_left_eq, flatMap_line_inj clean]
  refine forall₂_congr fun line _ => ?_
  rw [List.rdropWhile_eq_self_iff]
  obtain rfl | ⟨front, last, rfl⟩ := List.eq_nil_or_concat' line
  · simp
  · simp

/-- A carriage return inside a line stays, and so do blanks at its end. -/
theorem run_of_text_progress :
    let text := "10%\r20% \r\n\nend".toList
    let items : List Reading := [.data (Text.encode text)]
    (∀ item ∈ items, item.GoesOn) ∧ given items = Text.encode text ∧ ({} : Sink).room = none ∧
      lines text = ["10%\r20% ".toList, [], "end".toList] ∧
      ∃ after, run items {} = (after, none) ∧ after.taken = bytesOf "10%\r20% \n\nend\n" := by
  intro text items
  have steady : ∀ item ∈ items, item.GoesOn := by
    intro item member
    obtain rfl := List.mem_singleton.mp member
    exact Text.encode_ne_nil (by decide)
  have arrived : given items = Text.encode text := List.append_nil _
  obtain ⟨after, ran, _, unchanged⟩ := run_of_text text items {} steady arrived rfl
  have split : lines text = ["10%\r20% ".toList, [], "end".toList] := by decide
  refine ⟨steady, arrived, rfl, split, after, ran, ?_⟩
  have own : ∀ line ∈ lines text, line.getLast? ≠ some '\r' := by
    rw [split]
    decide
  rw [unchanged.mpr own, split]
  decide

/-- The first carriage return of two in front of a line feed is not of the line end, but
it is gone. -/
theorem not_lines_of_run :
    ¬∀ (text : List Char) (items : List Reading) (sink : Sink), (∀ item ∈ items, item.GoesOn) →
      given items = Text.encode text → sink.room = none →
      (run items sink).1.taken = sink.taken ++ (lines text).flatMap fun line => Text.encode line ++ [newline] := by
  intro unchanged
  have steady : ∀ item ∈ [Reading.data [97, 13, 13, 10]], item.GoesOn := by simp [Reading.GoesOn]
  have same := unchanged ['a', '\r', '\r', '\n'] [.data [97, 13, 13, 10]] {} steady (by decide) rfl
  rw [run_data] at same
  exact absurd same (by decide)

end Drain

end PipeShell
