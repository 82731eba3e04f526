import Mathlib
import PipeShell.Line.Build
import PipeShell.Proofs.Token.Grammar

/-! # Trimming a line

The blanks around a line are cut off before it is split into tokens, and that is done
without a look at its quotes. Blanks neither open nor close a quote, so only one word can
tell the difference: the last one, if its quote is never closed. It runs to the end of the
line, and so it loses the blanks that stood there. -/

set_option autoImplicit false

namespace PipeShell

namespace Text

def trimmed (text : String) : String := String.ofList (trim text.toList)

theorem trimStart_trim (text : List Char) : trimStart (trim text) = trim text := by
  obtain ⟨cut, split⟩ : trim text <+: trimStart text := List.rdropWhile_prefix isBlank _
  -- The text begins with the same visible character without its blanks at the end.
  cases kept : trim text with
  | nil => rfl
  | cons first rest =>
      have start : List.dropWhile isBlank text = first :: (rest ++ cut) := by
        rw [← List.cons_append, ← kept, split, trimStart]
      have visible := List.head?_dropWhile_not isBlank text
      rw [start] at visible
      simp only [List.head?_cons] at visible
      simp [trimStart, visible]

theorem trim_trim (text : List Char) : trim (trim text) = trim text := by
  calc
    trim (trim text) = trimEnd (trim text) := by rw [trim, trimStart_trim]
    _ = trim text := List.rdropWhile_idempotent isBlank (trimStart text)

theorem toList_trimmed (text : String) : (trimmed text).toList = trim text.toList := String.toList_ofList

/-- Trimming once is enough. -/
theorem toList_iterate_trimmed (times : Nat) (text : String) :
    (trimmed^[times + 1] text).toList = trim text.toList := by
  induction times with
  | zero => exact toList_trimmed text
  | succ times ih => rw [Function.iterate_succ_apply', toList_trimmed, ih, trim_trim]

private theorem trim_iterate_trimmed (times : Nat) (text : String) :
    trim (trimmed^[times] text).toList = trim text.toList := by
  cases times with
  | zero => rfl
  | succ times => rw [toList_iterate_trimmed, trim_trim]

/-- What is cut off at the end. -/
theorem exists_trimEnd (text : List Char) : ∃ gap, Token.Blanks gap ∧ trimEnd text ++ gap = text := by
  refine ⟨(text.reverse.takeWhile isBlank).reverse, ?_, ?_⟩
  · intro c member
    exact List.mem_takeWhile_imp (List.mem_reverse.mp member)
  · rw [trimEnd, ← List.reverse_append, List.takeWhile_append_dropWhile, List.reverse_reverse]

/-- Nothing is cut off in front of a visible character. -/
theorem trimEnd_append_cons {c : Char} (visible : isBlank c = false) (front rest : List Char) :
    trimEnd (front ++ c :: rest) = front ++ c :: trimEnd rest := by
  rw [trimEnd, trimEnd, List.reverse_append, List.reverse_cons, List.append_assoc, List.dropWhile_append]
  split
  · next blank => simp [visible, List.isEmpty_iff.mp blank]
  · simp

end Text

namespace Token

open Text

/-! ## The quote that is open at the end -/

/-- The open quote stands behind a text in which every quote is closed. -/
theorem exists_front_of_openQuote? {text : List Char} {quote : Char} (isOpen : openQuote? text = some quote) :
    ∃ front inner, text = front ++ quote :: inner ∧ isQuote quote = true ∧ EndsUnquoted front ∧ quote ∉ inner := by
  induction text using List.reverseRecOn with
  | nil => cases isOpen
  | append_singleton text c ih =>
      have behind : quoteAfter (openQuote? text) c = some quote := by
        rw [← isOpen, openQuote?, openQuote?, List.foldl_append, List.foldl_cons, List.foldl_nil]
      cases before : openQuote? text with
      | none =>
          rw [before, quoteAfter] at behind
          split at behind
          · next isQuoted =>
              obtain rfl := Option.some.inj behind
              exact ⟨text, [], rfl, isQuoted, before, List.not_mem_nil⟩
          · cases behind
      | some other =>
          rw [before, quoteAfter] at behind
          split at behind
          · cases behind
          · next different =>
              obtain rfl := Option.some.inj behind
              obtain ⟨front, inner, rfl, isQuoted, unquoted, absent⟩ := ih before
              refine ⟨front, inner ++ [c], by simp, isQuoted, unquoted, ?_⟩
              simpa [absent] using Ne.symm different

private theorem openQuote?_append_blanks (text : List Char) {gap : List Char} (blank : Blanks gap) :
    openQuote? (text ++ gap) = openQuote? text := by
  have behind : openQuote? (text ++ gap) = gap.foldl quoteAfter (openQuote? text) := List.foldl_append
  rw [behind]
  cases before : openQuote? text with
  | none => exact foldl_quoteAfter_unquoted (unquoted_of_blanks blank)
  | some quote =>
      obtain ⟨_, _, _, isQuoted, _, _⟩ := exists_front_of_openQuote? before
      refine foldl_quoteAfter_inside fun member => ?_
      exact absurd (blank quote member) (by simp [not_blank_of_isQuote isQuoted])

theorem openQuote?_trimStart (text : List Char) : openQuote? (trimStart text) = openQuote? text := by
  have whole : text.takeWhile isBlank ++ trimStart text = text := List.takeWhile_append_dropWhile
  have closed := foldl_quoteAfter_unquoted (unquoted_of_blanks (blanks_takeWhile text))
  calc
    openQuote? (trimStart text) = openQuote? (text.takeWhile isBlank ++ trimStart text) := by
      rw [openQuote?, openQuote?, List.foldl_append, closed]
    _ = openQuote? text := by rw [whole]

/-! ## Tokens of a trimmed text -/

theorem scan_trimStart (text : List Char) : scan (trimStart text) = scan text := by
  have whole : text.takeWhile isBlank ++ trimStart text = text := List.takeWhile_append_dropWhile
  rw [← scan_blanks_append (blanks_takeWhile text), whole]

theorem parted_of_blanks {gap : List Char} (blank : Blanks gap) : Parted gap := by
  cases gap with
  | nil => exact parted_nil
  | cons c rest => exact parted_cons_blank rest (blank c List.mem_cons_self)

theorem scan_trimEnd {text : List Char} (unquoted : EndsUnquoted text) : scan (trimEnd text) = scan text := by
  obtain ⟨gap, blank, whole⟩ := exists_trimEnd text
  have unquotedFront : EndsUnquoted (trimEnd text) := by
    rw [EndsUnquoted, ← openQuote?_append_blanks _ blank, whole]
    exact unquoted
  have nothing : scan gap = [] := (Decomposes.last blank).scan
  calc
    scan (trimEnd text) = scan (trimEnd text ++ gap) := by
      rw [scan_append unquotedFront (parted_of_blanks blank), nothing, List.append_nil]
    _ = scan text := by rw [whole]

/-- A word whose quote is not closed takes everything up to the end. -/
theorem scan_append_open {front inner : List Char} {quote : Char} (isQuoted : isQuote quote = true)
    (unquoted : EndsUnquoted front) (absent : quote ∉ inner) :
    scan (front ++ quote :: inner) = scan front ++ [.word (String.ofList inner)] := by
  have parted : Parted (quote :: inner) := by
    intro c first
    obtain rfl := Option.some.inj first
    refine ⟨by simp [isWordBreak, isQuoted], ?_⟩
    rintro rfl
    cases isQuoted
  rw [scan_append unquoted parted, scan_cons_visible _ (not_blank_of_isQuote isQuoted), lexeme_of_isQuote isQuoted,
    quotedWord_open absent, scan_nil]

end Token

namespace Line

open Token

theorem ofInput_trim (input : String) : ofInput (String.ofList (Text.trim input.toList)) = ofInput input := by
  simp only [ofInput, String.toList_ofList, Text.trim_trim]

/-- However often a line is trimmed, its tokens stay the same, and it is parsed as they say, unless
it ends inside a quote. Then the last token is the word behind that quote, and it alone is
trimmed at its end. -/
theorem tokenize_iterate_trimmed (input : String) :
    match openQuote? input.toList with
    | none => ∀ times, tokenize (Text.trimmed^[times] input) = tokenize input ∧
        parse (Text.trimmed^[times] input) =
          (build (tokenize input)).map fun line => if line.isEmpty then none else some line
    | some quote => ∃ tokens inner, quote ∉ inner ∧ tokenize input = tokens ++ [.word (String.ofList inner)] ∧
        ∀ times, tokenize (Text.trimmed^[times + 1] input) =
          tokens ++ [.word (String.ofList (Text.trimEnd inner))] := by
  have start := openQuote?_trimStart input.toList
  have tokens : tokenize input = scan (Text.trimStart input.toList) := (scan_trimStart _).symm
  cases isOpen : openQuote? input.toList with
  | none =>
      have trimmed : scan (Text.trim input.toList) = tokenize input := by
        rw [Text.trim, scan_trimEnd (start.trans isOpen), tokens]
      intro times
      refine ⟨?_, ?_⟩
      · cases times with
        | zero => rfl
        | succ times => rw [tokenize, Text.toList_iterate_trimmed, trimmed]
      · rw [parse, ofInput, Text.trim_iterate_trimmed, trimmed]
        cases build (tokenize input) <;> rfl
  | some quote =>
      obtain ⟨front, inner, split, isQuoted, unquoted, absent⟩ := exists_front_of_openQuote? (start.trans isOpen)
      obtain ⟨gap, _, whole⟩ := Text.exists_trimEnd inner
      have absentTrimmed : quote ∉ Text.trimEnd inner :=
        fun member => absent (whole ▸ List.mem_append_left gap member)
      refine ⟨scan front, inner, absent, ?_, fun times => ?_⟩
      · rw [tokens, split, scan_append_open isQuoted unquoted absent]
      · rw [tokenize, Text.toList_iterate_trimmed, Text.trim, split,
          Text.trimEnd_append_cons (not_blank_of_isQuote isQuoted), scan_append_open isQuoted unquoted absentTrimmed]

/-- The quote that opens the last word is the last visible character. -/
example : tokenize (Text.trimmed " ls '\t ") = [.word "ls", .word ""] := by
  cbv

end Line

end PipeShell
