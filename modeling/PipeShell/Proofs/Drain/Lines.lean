import PipeShell.Proofs.Text.Decoding

/-! # Lines of bytes

How bytes are split into lines when they come in pieces, and why a line that a drain
delivers is one line again: neither decoding nor encoding makes a line feed of anything
else. -/

set_option autoImplicit false

namespace PipeShell

namespace Drain

/-- One line with its newline at the end. -/
def IsLine (bytes : Bytes) : Prop := ∃ text, newline ∉ text ∧ bytes = text ++ [newline]

/-! ## Splitting -/

theorem splitLines_cons (b : UInt8) (bytes : Bytes) : splitLines (b :: bytes) = consByte b (splitLines bytes) := rfl

/-- Bytes in front of others become lines by themselves, except that what they leave
unfinished goes on. -/
theorem splitLines_append (front back : Bytes) :
    splitLines (front ++ back) =
      ((splitLines front).1 ++ (splitLines ((splitLines front).2 ++ back)).1,
        (splitLines ((splitLines front).2 ++ back)).2) := by
  induction front with
  | nil => simp [splitLines]
  | cons b front ih =>
      rw [List.cons_append, splitLines_cons, splitLines_cons, ih]
      by_cases ends : b = newline
      · simp [consByte, ends]
      · cases split : (splitLines front).1 with
        | nil => simp [consByte, ends, split, splitLines_cons]
        | cons line lines => simp [consByte, ends, split]

theorem splitLines_of_clean {text : Bytes} (clean : newline ∉ text) : splitLines text = ([], text) := by
  induction text with
  | nil => rfl
  | cons b text ih =>
      obtain ⟨other, rest⟩ : b ≠ newline ∧ newline ∉ text := by
        simpa [eq_comm (a := newline)] using clean
      simp [splitLines_cons, ih rest, consByte, other]

private theorem splitLines_newline (rest : Bytes) :
    splitLines (newline :: rest) = ([newline] :: (splitLines rest).1, (splitLines rest).2) := by
  simp [splitLines_cons, consByte]

theorem splitLines_of_line {text : Bytes} (clean : newline ∉ text) (rest : Bytes) :
    splitLines (text ++ newline :: rest) = ((text ++ [newline]) :: (splitLines rest).1, (splitLines rest).2) := by
  induction text with
  | nil => exact splitLines_newline rest
  | cons b text ih =>
      obtain ⟨other, cleanRest⟩ : b ≠ newline ∧ newline ∉ text := by
        simpa [eq_comm (a := newline)] using clean
      rw [List.cons_append, splitLines_cons, ih cleanRest]
      simp [consByte, other]

/-- Lines one after the other are split where they were put together. -/
theorem splitLines_flatten {lines : List Bytes} (whole : ∀ line ∈ lines, IsLine line) :
    splitLines lines.flatten = (lines, []) := by
  induction lines with
  | nil => rfl
  | cons line lines ih =>
      obtain ⟨text, clean, rfl⟩ := whole line List.mem_cons_self
      have rest := ih fun other member => whole other (List.mem_cons_of_mem _ member)
      rw [List.flatten_cons, List.append_assoc, List.singleton_append, splitLines_of_line clean, rest]

/-- What is split off are lines, and the rest holds no line. -/
theorem splitLines_spec (bytes : Bytes) :
    (∀ line ∈ (splitLines bytes).1, IsLine line) ∧ newline ∉ (splitLines bytes).2 := by
  induction bytes with
  | nil => exact ⟨fun _ member => (nomatch member), fun member => nomatch member⟩
  | cons b bytes ih =>
      obtain ⟨lines, rest⟩ := ih
      rw [splitLines_cons]
      by_cases ends : b = newline
      · refine ⟨?_, by simpa [consByte, ends] using rest⟩
        intro line member
        rcases List.mem_cons.mp (by simpa [consByte, ends] using member) with rfl | earlier
        · exact ⟨[], by simp, rfl⟩
        · exact lines line earlier
      · have other : newline ≠ b := Ne.symm ends
        cases split : splitLines bytes with
        | mk first tail =>
            rw [split] at lines rest
            cases first with
            | nil => simpa [consByte, ends, other] using rest
            | cons head first =>
                refine ⟨?_, by simpa [consByte, ends] using rest⟩
                intro line member
                rcases List.mem_cons.mp (by simpa [consByte, ends] using member) with rfl | later
                · obtain ⟨text, clean, rfl⟩ := lines head List.mem_cons_self
                  exact ⟨b :: text, by simp [other, clean], rfl⟩
                · exact lines line (List.mem_cons_of_mem _ later)

/-! ## Delivering -/

private theorem trimTerminators_subset (text : List Char) : trimTerminators text ⊆ text := by
  intro c member
  have among := (List.dropWhile_sublist isTerminator).subset (List.mem_reverse.mp member)
  exact List.mem_reverse.mp among

theorem trimTerminators_newline (text : List Char) : trimTerminators (text ++ ['\n']) = trimTerminators text := by
  simp [trimTerminators, isTerminator]

/-- The text of a line holds no newline, however its bytes are to be read. -/
theorem clean_lineText {line : Bytes} (single : newline ∉ line ∨ IsLine line) : newline ∉ lineText line := by
  intro member
  have kept := Text.mem_encode member
  rcases single with clean | ⟨text, clean, rfl⟩
  · exact Text.clean_decodeLossy clean (trimTerminators_subset _ kept)
  · have same : Text.decodeLossy (text ++ [newline]) = Text.decodeLossy text ++ ['\n'] := Text.decodeLossy_line clean []
    rw [same, trimTerminators_newline] at kept
    exact Text.clean_decodeLossy clean (trimTerminators_subset _ kept)

end Drain

end PipeShell
