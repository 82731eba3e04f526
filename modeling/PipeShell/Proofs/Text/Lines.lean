import PipeShell.Proofs.Text.Decoding

/-! # Lines of a text

A list cut behind each of its marks: the lines of a text with their line feeds, or those
of bytes with their newlines. Bytes and the text that they are read as have the same
lines, malformed or not, and so have a text and its form. -/

set_option autoImplicit false

namespace PipeShell.Text

section Cutting

variable {α : Type} [DecidableEq α] {mark : α}

/-- The list cut behind each mark. Only the last part can be without one. -/
def cutBehind (mark : α) : List α → List (List α)
  | [] => []
  | a :: rest =>
    if a = mark then [a] :: cutBehind mark rest
    else
      match cutBehind mark rest with
      | [] => [[a]]
      | part :: parts => (a :: part) :: parts

theorem cutBehind_of_clean {part : List α} (clean : mark ∉ part) (nonempty : part ≠ []) :
    cutBehind mark part = [part] := by
  induction part with
  | nil => exact absurd rfl nonempty
  | cons a rest ih =>
      obtain ⟨other, cleanRest⟩ := not_or.mp (mt List.mem_cons.mpr clean)
      rw [cutBehind, if_neg (Ne.symm other)]
      cases rest with
      | nil => rfl
      | cons b rest => rw [ih cleanRest (List.cons_ne_nil b rest)]

/-- The first mark ends the first part. Everything else follows from this. -/
theorem cutBehind_line {front : List α} (clean : mark ∉ front) (rest : List α) :
    cutBehind mark (front ++ mark :: rest) = (front ++ [mark]) :: cutBehind mark rest := by
  induction front with
  | nil => simp [cutBehind]
  | cons a front ih =>
      obtain ⟨other, cleanFront⟩ := not_or.mp (mt List.mem_cons.mpr clean)
      rw [List.cons_append, cutBehind, if_neg (Ne.symm other), ih cleanFront]
      rfl

/-- A list is either without a mark or goes on behind its first one. -/
theorem cutting (mark : α) {motive : List α → Prop} (last : ∀ part, mark ∉ part → motive part)
    (line : ∀ front rest, mark ∉ front → motive rest → motive (front ++ mark :: rest)) (list : List α) :
    motive list := by
  induction length : list.length using Nat.strongRecOn generalizing list with
  | ind n ih =>
      by_cases marked : mark ∈ list
      · obtain ⟨front, rest, rfl, clean⟩ := List.eq_append_cons_of_mem marked
        have shorter : rest.length < n := by
          rw [← length, List.length_append, List.length_cons]
          omega
        exact line front rest clean (ih rest.length shorter rest rfl)
      · exact last list marked

theorem flatten_cutBehind (mark : α) (list : List α) : (cutBehind mark list).flatten = list := by
  induction list using cutting mark with
  | last part clean =>
      by_cases nothing : part = []
      · rw [nothing]
        rfl
      · rw [cutBehind_of_clean clean nothing, List.flatten_singleton]
  | line front rest clean ih =>
      rw [cutBehind_line clean, List.flatten_cons, ih, List.append_assoc, List.singleton_append]

/-- A part is a mark behind what has none, or the last one is something without a mark. -/
theorem part_of_cutBehind {list part : List α} (member : part ∈ cutBehind mark list) :
    ∃ text, mark ∉ text ∧ (part = text ++ [mark] ∨ part = text ∧ text ≠ []) := by
  induction list using cutting mark with
  | last whole clean =>
      by_cases nothing : whole = []
      · rw [nothing] at member
        cases member
      · rw [cutBehind_of_clean clean nothing] at member
        exact ⟨whole, clean, .inr ⟨List.mem_singleton.mp member, nothing⟩⟩
  | line front rest clean ih =>
      rw [cutBehind_line clean] at member
      rcases List.mem_cons.mp member with rfl | later
      · exact ⟨front, clean, .inl rfl⟩
      · exact ih later

end Cutting

/-! ## Bytes and texts -/

theorem clean_encode {text : List Char} (clean : '\n' ∉ text) : newline ∉ encode text :=
  fun member => clean (mem_encode member)

theorem encode_ne_nil {text : List Char} (nonempty : text ≠ []) : encode text ≠ [] := by
  intro nothing
  have back := decodeLossy_encode text
  rw [nothing] at back
  exact nonempty back.symm

theorem cutBehind_encode (text : List Char) : cutBehind newline (encode text) = (cutBehind '\n' text).map encode := by
  induction text using cutting '\n' with
  | last part clean =>
      by_cases nothing : part = []
      · rw [nothing]
        rfl
      · rw [cutBehind_of_clean clean nothing, cutBehind_of_clean (clean_encode clean) (encode_ne_nil nothing)]
        rfl
  | line front rest clean ih =>
      have written : encode (front ++ '\n' :: rest) = encode front ++ newline :: encode rest := encode_append front _
      rw [written, cutBehind_line (clean_encode clean), cutBehind_line clean, ih, List.map_cons, encode_append]
      rfl

namespace Decoder

/-- Something was read: a character is there, or the beginning of one. -/
def Begun (decoder : Decoder) : Prop := decoder.decoded ≠ [] ∨ decoder.owed ≠ none

private theorem begun_begin (decoder : Decoder) (b : UInt8) : (decoder.begin b).Begun := by
  unfold Decoder.begin
  split
  · exact .inl (List.cons_ne_nil _ _)
  · split
    · exact .inr (Option.some_ne_none _)
    · exact .inl (List.cons_ne_nil _ _)

private theorem begun_read (decoder : Decoder) (b : UInt8) : (decoder.read b).Begun := by
  unfold Decoder.read
  split
  · exact begun_begin decoder b
  · split
    · dsimp only
      split
      · exact .inl (List.cons_ne_nil _ _)
      · exact .inr (Option.some_ne_none _)
    · exact begun_begin _ b

private theorem Begun.close {decoder : Decoder} (begun : decoder.Begun) : decoder.close.decoded ≠ [] := by
  unfold Decoder.close
  split
  · next idle => exact begun.resolve_right (not_not.mpr idle)
  · exact List.cons_ne_nil _ _

end Decoder

private theorem decodeLossy_ne_nil {bytes : Bytes} (nonempty : bytes ≠ []) : decodeLossy bytes ≠ [] := by
  obtain ⟨front, last, rfl⟩ := (List.eq_nil_or_concat' bytes).resolve_left nonempty
  rw [decodeLossy, Decoder.readAll, List.foldl_append, Ne, List.reverse_eq_nil_iff]
  exact (Decoder.begun_read _ last).close

/-- Cutting at the newlines and decoding can change places. -/
theorem cutBehind_decodeLossy (bytes : Bytes) :
    cutBehind '\n' (decodeLossy bytes) = (cutBehind newline bytes).map decodeLossy := by
  induction bytes using cutting newline with
  | last part clean =>
      by_cases nothing : part = []
      · rw [nothing]
        rfl
      · rw [cutBehind_of_clean clean nothing,
          cutBehind_of_clean (clean_decodeLossy clean) (decodeLossy_ne_nil nothing)]
        rfl
  | line front rest clean ih =>
      rw [decodeLossy_line clean, cutBehind_line (clean_decodeLossy clean), cutBehind_line clean, ih, List.map_cons,
        decodeLossy_line clean]
      rfl

/-- The lines can be decoded one by one. -/
theorem decodeLossy_lines (bytes : Bytes) : decodeLossy bytes = (cutBehind newline bytes).flatMap decodeLossy := by
  rw [List.flatMap_def, ← cutBehind_decodeLossy, flatten_cutBehind]

end PipeShell.Text
