import PipeShell.Proofs.Drain.StreamEnd
import PipeShell.Proofs.Drain.Terminators

/-! # What a drain leaves as it is

A drain brings bytes into a normal form: the form of a text whose lines all end with a newline
and none with a carriage return in front of it. Bytes of this form are copied as they are, so a
second drain changes nothing. -/

set_option autoImplicit false

namespace PipeShell

open Reading (given)

def carriageReturn : UInt8 := 13

namespace Text

private theorem toNat_of_mem_utf8EncodeChar {c : Char} {b : UInt8} (member : b ∈ String.utf8EncodeChar c)
    (ascii : b.toNat < 128) :
    c.toNat = b.toNat := by
  have same : c.val.toNat = c.toNat := rfl
  simp only [String.utf8EncodeChar, same] at member
  repeat' split at member
  all_goals
    simp [← UInt8.toNat_inj] at member
    omega

/-- A form that ends in a carriage return is that of a text that does. -/
theorem getLast?_of_getLast?_encode {text : List Char} (last : (encode text).getLast? = some carriageReturn) :
    text.getLast? = some '\r' := by
  obtain rfl | ⟨front, c, rfl⟩ := List.eq_nil_or_concat' text
  · cases last
  · have member : carriageReturn ∈ String.utf8EncodeChar c := by
      have written : encode (front ++ [c]) = encode front ++ String.utf8EncodeChar c := by
        rw [encode_append, encode, encode, List.flatMap_singleton]
      rw [written, List.getLast?_append_of_ne_nil _ String.utf8EncodeChar_ne_nil] at last
      exact List.mem_of_getLast? last
    have value : c.toNat = 13 := toNat_of_mem_utf8EncodeChar member (by decide)
    have carriage : c = '\r' := Char.ext (UInt32.toNat_inj.mp value)
    rw [List.getLast?_concat, carriage]

end Text

open Text (cutBehind)

namespace Drain

/-- Bytes in the form in which a drain delivers them. -/
structure Normal (bytes : Bytes) : Prop where
  utf8 : ∃ text, bytes = Text.encode text
  settled : Settled bytes
  bare : ¬[carriageReturn, newline] <:+: bytes

private theorem settled_iff (bytes : Bytes) : Settled bytes ↔ bytes = [] ∨ bytes.getLast? = some newline := by
  obtain rfl | ⟨front, last, rfl⟩ := List.eq_nil_or_concat' bytes
  · simp [Settled]
  · simp [Settled]

/-! ## Lines of what is delivered -/

theorem copied_eq_flatten (bytes : Bytes) : copied bytes = ((cutBehind newline bytes).map delivered).flatten := by
  rw [copied_eq, image, closedLines_eq, List.flatMap_def]

theorem isLine_of_mem_delivered {bytes line : Bytes} (member : line ∈ (cutBehind newline bytes).map delivered) :
    IsLine line := by
  obtain ⟨part, among, rfl⟩ := List.mem_map.mp member
  obtain ⟨text, clean, same⟩ := Text.part_of_cutBehind among
  refine ⟨lineText part, clean_lineText ?_, rfl⟩
  rcases same with ended | ⟨open_, _⟩
  · exact .inr ⟨text, clean, ended⟩
  · exact .inl (open_ ▸ clean)

private theorem splitLines_copied (bytes : Bytes) :
    splitLines (copied bytes) = ((cutBehind newline bytes).map delivered, []) := by
  rw [copied_eq_flatten]
  exact splitLines_flatten fun line => isLine_of_mem_delivered

private theorem exists_line_of_infix {bytes : Bytes} (inside : [carriageReturn, newline] <:+: bytes) :
    ∃ text, text ++ [carriageReturn] ++ [newline] ∈ (splitLines bytes).1 := by
  obtain ⟨front, back, rfl⟩ := inside
  have clean : newline ∉ (splitLines front).2 ++ [carriageReturn] := by
    rw [List.mem_append, not_or]
    exact ⟨(splitLines_spec front).2, by decide⟩
  have line : (splitLines front).2 ++ ([carriageReturn, newline] ++ back) =
      ((splitLines front).2 ++ [carriageReturn]) ++ newline :: back := by
    simp
  refine ⟨(splitLines front).2, ?_⟩
  rw [List.append_assoc, splitLines_append, line, splitLines_of_line clean]
  exact List.mem_append_right _ List.mem_cons_self

private theorem getLast?_trimTerminators (text : List Char) : (trimTerminators text).getLast? ≠ some '\r' := by
  intro last
  obtain ⟨front, same⟩ := List.getLast?_eq_some_iff.mp last
  have nonempty : text.rdropWhile isTerminator ≠ [] := by
    intro nothing
    rw [show trimTerminators text = [] from nothing] at last
    cases last
  have other := List.rdropWhile_last_not isTerminator text nonempty
  refine other ?_
  have ends : (text.rdropWhile isTerminator).getLast nonempty = '\r' :=
    Option.some.inj ((List.getLast?_eq_getLast_of_ne_nil nonempty).symm.trans last)
  rw [ends]
  rfl

/-! ## Into the normal form and not out of it -/

private theorem normal_copied (bytes : Bytes) : Normal (copied bytes) where
  utf8 := by
    refine ⟨(cutBehind newline bytes).flatMap fun line => trimTerminators (Text.decodeLossy line) ++ ['\n'], ?_⟩
    rw [copied_eq_flatten, ← List.flatMap_def, Text.encode, List.flatMap_assoc]
    refine List.flatMap_congr fun line _ => ?_
    exact (Text.encode_append (trimTerminators (Text.decodeLossy line)) ['\n']).symm
  settled := by rw [← unfinished_eq_nil_iff, splitLines_copied]
  bare := by
    intro inside
    obtain ⟨text, member⟩ := exists_line_of_infix inside
    rw [splitLines_copied] at member
    obtain ⟨line, _, same⟩ := List.mem_map.mp member
    have written : lineText line = text ++ [carriageReturn] := List.append_cancel_right same
    have last : (lineText line).getLast? = some carriageReturn := by rw [written, List.getLast?_concat]
    exact getLast?_trimTerminators _ (Text.getLast?_of_getLast?_encode last)

/-- A line keeps its form if it is that of a text and its newline stands alone. -/
theorem delivered_encode {front : List Char} (clean : '\n' ∉ front) (bare : front.getLast? ≠ some '\r') :
    delivered (Text.encode (front ++ ['\n'])) = Text.encode (front ++ ['\n']) := by
  have kept : front.rdropWhile (· = '\r') = front := by
    rw [List.rdropWhile_eq_self_iff]
    intro nonempty ends
    exact bare ((List.getLast?_eq_getLast_of_ne_nil nonempty).trans (congrArg some (of_decide_eq_true ends)))
  rw [delivered, lineText_encode, trimTerminators_newline, trimTerminators_clean clean, kept, Text.encode_append]
  rfl

private theorem copied_of_normal {bytes : Bytes} (normal : Normal bytes) : copied bytes = bytes := by
  obtain ⟨text, rfl⟩ := normal.utf8
  have closed : cutBehind newline (Text.encode text) = (splitLines (Text.encode text)).1 := by
    rw [← closedLines_eq, closedLines, if_pos ((unfinished_eq_nil_iff _).mpr normal.settled)]
  have same : ∀ part ∈ cutBehind newline (Text.encode text), delivered part = part := by
    intro part member
    have inside := List.infix_of_mem_flatten member
    rw [Text.flatten_cutBehind] at inside
    obtain ⟨body, cleanBody, ended⟩ := (splitLines_spec (Text.encode text)).1 part (closed ▸ member)
    rw [Text.cutBehind_encode] at member
    obtain ⟨line, among, rfl⟩ := List.mem_map.mp member
    obtain ⟨front, clean, rfl | ⟨rfl, _⟩⟩ := Text.part_of_cutBehind among
    · apply delivered_encode clean
      intro last
      obtain ⟨before, rfl⟩ := List.getLast?_eq_some_iff.mp last
      refine normal.bare (List.IsInfix.trans ?_ inside)
      exact ⟨Text.encode before, [], by simp [Text.encode, carriageReturn, newline]; decide⟩
    · have clean := Text.clean_encode clean
      rw [ended] at clean
      simp at clean
  rw [copied_eq_flatten, List.map_congr_left same, List.map_id', Text.flatten_cutBehind]

/-! ## How many lines there are -/

theorem count_copied (bytes : Bytes) : (copied bytes).count newline = (cutBehind newline bytes).length := by
  have one : ∀ line ∈ (cutBehind newline bytes).map delivered, line.count newline = 1 := by
    intro line member
    obtain ⟨text, clean, rfl⟩ := isLine_of_mem_delivered member
    rw [List.count_append, List.count_eq_zero_of_not_mem clean, List.count_singleton_self]
  rw [copied_eq_flatten, List.count_flatten, List.map_congr_left one, List.map_const', List.sum_replicate]
  simp

private theorem length_cutBehind (bytes : Bytes) : (cutBehind newline bytes).length =
    bytes.count newline + if bytes = [] ∨ bytes.getLast? = some newline then 0 else 1 := by
  induction bytes using Text.cutting newline with
  | last part clean =>
      by_cases nothing : part = []
      · rw [nothing]
        rfl
      · have unended : part.getLast? ≠ some newline := fun last => clean (List.mem_of_getLast? last)
        rw [Text.cutBehind_of_clean clean nothing, List.count_eq_zero_of_not_mem clean,
          if_neg (not_or.mpr ⟨nothing, unended⟩)]
        rfl
  | line front rest clean ih =>
      rw [Text.cutBehind_line clean, List.length_cons, ih, List.count_append, List.count_eq_zero_of_not_mem clean,
        List.count_cons_self]
      cases rest with
      | nil => simp
      | cons b rest =>
          simp [List.getLast?_append, List.getLast?_cons]
          omega

private theorem copied_eq_nil_iff (bytes : Bytes) : copied bytes = [] ↔ bytes = [] := by
  constructor
  · intro nothing
    have count := count_copied bytes
    rw [nothing, List.count_nil] at count
    rw [← Text.flatten_cutBehind newline bytes, List.length_eq_zero_iff.mp count.symm, List.flatten_nil]
  · rintro rfl
    rw [copied_eq, image_nil]

/-- What a drain that nothing stops delivers is UTF-8, and every line of it ends with a
newline; it has as many of them as the stream had lines, an unfinished last one included. The
same bytes drained once more stay the same, and so do exactly the bytes of such a form in which
no carriage return stands in front of a newline. -/
theorem run_normalizes (bytes : Bytes) (items : List Reading) (steady : ∀ item ∈ items, item.GoesOn)
    (arrived : given items = bytes) :
    let out := (run items {}).1.taken
    (run items {}).2 = none ∧ (∃ text, out = Text.encode text) ∧ (out = [] ↔ bytes = []) ∧
      (out ≠ [] → out.getLast? = some newline) ∧
      out.count newline = bytes.count newline + (if bytes = [] ∨ bytes.getLast? = some newline then 0 else 1) ∧
      (∀ again : List Reading, (∀ item ∈ again, item.GoesOn) → given again = out → (run again {}).1.taken = out) ∧
      (out = bytes ↔ (∃ text, bytes = Text.encode text) ∧ (bytes = [] ∨ bytes.getLast? = some newline) ∧
        ¬[carriageReturn, newline] <:+: bytes) := by
  subst arrived
  have delivers {items : List Reading} (steady : ∀ item ∈ items, item.GoesOn) :
      (run items {}).1.taken = copied (given items) ∧ (run items {}).2 = none := by
    have unlimited : ({} : Sink).room = none := rfl
    obtain ⟨after, delivered, _, taken⟩ := Sink.deliverAll_of_unlimited unlimited (cutBehind newline (given items))
    rw [run_of_steady steady, delivered, copied_eq_flatten, ← List.flatMap_def]
    exact ⟨taken, rfl⟩
  obtain ⟨taken, complete⟩ := delivers steady
  have normal := normal_copied (given items)
  rw [taken]
  refine ⟨complete, normal.utf8, copied_eq_nil_iff _, ?_, ?_, ?_, ?_⟩
  · exact fun nonempty => ((settled_iff _).mp normal.settled).resolve_left nonempty
  · rw [count_copied, length_cutBehind]
  · intro again steadyAgain arrived
    rw [(delivers steadyAgain).1, arrived, copied_of_normal normal]
  · constructor
    · intro same
      rw [same] at normal
      exact ⟨normal.utf8, (settled_iff _).mp normal.settled, normal.bare⟩
    · rintro ⟨utf8, settled, bare⟩
      exact copied_of_normal ⟨utf8, (settled_iff _).mpr settled, bare⟩

/-- Two carriage returns and a byte that is not UTF-8 are lost on the first way through a
drain, and nothing on the second. -/
theorem run_normalizes_once :
    let bytes : Bytes := [97, 13, 13, 10, 10, 0xFF]
    let items : List Reading := [.data [97, 13], .failed (.bare .interrupted), .data [13, 10, 10, 0xFF]]
    (∀ item ∈ items, item.GoesOn) ∧ given items = bytes ∧ (run items {}).1.taken = bytesOf "a\n\n\uFFFD\n" ∧
      (run items {}).1.taken.count newline = 3 ∧ (run items {}).1.taken ≠ bytes ∧
      (run [.data (bytesOf "a\n\n\uFFFD\n")] {}).1.taken = bytesOf "a\n\n\uFFFD\n" := by
  intro bytes items
  have steady : ∀ item ∈ items, item.GoesOn := by simp [items, Reading.GoesOn, System.Failure.kindOf]
  obtain ⟨_, _, _, _, count, again, unchanged⟩ := run_normalizes bytes items steady rfl
  have taken : (run items {}).1.taken = bytesOf "a\n\n\uFFFD\n" := by cbv
  have nonempty : ∀ item ∈ [Reading.data (bytesOf "a\n\n\uFFFD\n")], item.GoesOn := by
    simp [Reading.GoesOn, bytesOf, Text.encode]
  refine ⟨steady, rfl, taken, ?_, ?_, ?_⟩
  · rw [count]
    decide
  · intro same
    exact (unchanged.mp same).2.2 ⟨[97, 13], [10, 0xFF], rfl⟩
  · have drained := again [.data (bytesOf "a\n\n\uFFFD\n")] nonempty (taken ▸ List.append_nil _)
    rwa [taken] at drained

end Drain

end PipeShell
