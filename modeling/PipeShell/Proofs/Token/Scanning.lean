import PipeShell.Token.Lexer

/-! # Scanning a text from its front

How the tokens of a text follow from what it begins with: a blank, an operator or
a word. A bare word ends where a blank follows it or where the text ends; a quoted
word ends at its own quote, whatever follows. Conversely, no word that the scanner
finds holds both kinds of quote. -/

set_option autoImplicit false

namespace PipeShell.Token

open Text

/-- No quoting can write a word in which both kinds of quote occur. -/
def Quotable (word : String) : Prop := ¬('"' ∈ word.toList ∧ '\'' ∈ word.toList)

instance (word : String) : Decidable (Quotable word) := inferInstanceAs (Decidable ¬_)

/-- A text in front of which every bare word ends and every operator is complete. A
`>` is not enough, for `2` and `>` would go together. -/
def Parted (rest : List Char) : Prop := ∀ c, rest.head? = some c → isWordBreak c = true ∧ c ≠ '>'

theorem isWordBreak_of_isBlank {c : Char} (blank : isBlank c = true) : isWordBreak c = true := by
  simp [isWordBreak, blank]

@[simp] theorem parted_nil : Parted [] := by simp [Parted]

theorem parted_cons_blank {c : Char} (rest : List Char) (blank : isBlank c = true) : Parted (c :: rest) := by
  intro other first
  cases first
  refine ⟨isWordBreak_of_isBlank blank, ?_⟩
  rintro rfl
  exact absurd blank (by decide)

/-! ## One token at a time -/

@[simp] theorem scan_nil : scan [] = [] := by
  rw [scan]
  rfl

theorem scan_cons_blank {c : Char} (rest : List Char) (blank : isBlank c = true) :
    scan (c :: rest) = scan rest := by
  have same : next? (c :: rest) = next? rest := by
    simp [next?, trimStart, blank]
  rw [scan, scan]
  split <;> split <;> simp_all

theorem scan_cons_visible {c : Char} (rest : List Char) (visible : isBlank c = false) :
    scan (c :: rest) = (lexeme c rest).1 :: scan (lexeme c rest).2 := by
  have found : next? (c :: rest) = some (lexeme c rest) := by
    simp [next?, trimStart, visible]
  rw [scan]
  split
  · simp_all
  · next token behind equation =>
      have parts : (token, behind) = lexeme c rest := by simpa [found] using equation.symm
      rw [← parts]

theorem not_blank_of_isQuote {quote : Char} (isQuoted : isQuote quote = true) : isBlank quote = false := by
  simp only [isQuote, Bool.or_eq_true, decide_eq_true_eq] at isQuoted
  rcases isQuoted with rfl | rfl <;> decide

theorem not_blank_of_unbroken {c : Char} (unbroken : isWordBreak c = false) : isBlank c = false := by
  cases blank : isBlank c with
  | false => rfl
  | true => exact (isWordBreak_of_isBlank blank).symm.trans unbroken

theorem quotedWord_closed {quote : Char} {inner : List Char} (absent : quote ∉ inner) (rest : List Char) :
    quotedWord quote (inner ++ quote :: rest) = (.word (String.ofList inner), rest) := by
  have inside : ∀ c ∈ inner, (c != quote) = true := by
    intro c member
    simp only [bne_iff_ne, ne_eq]
    rintro rfl
    exact absent member
  simp [quotedWord, List.takeWhile_append_of_pos inside, List.dropWhile_append_of_pos inside]

theorem scan_quotedWord (quote : Char) (isQuoted : isQuote quote = true) {word : List Char}
    (absent : quote ∉ word) (rest : List Char) :
    scan (quote :: (word ++ quote :: rest)) = .word (String.ofList word) :: scan rest := by
  rw [scan_cons_visible _ (not_blank_of_isQuote isQuoted)]
  simp [lexeme, isQuoted, quotedWord_closed absent]

/-- Where nothing breaks a word off, it goes on to the next character that does. -/
theorem lexeme_unbroken {first : Char} {tail rest : List Char}
    (unbroken : ∀ c ∈ first :: tail, isWordBreak c = false)
    (ends : ∀ c, rest.head? = some c → isWordBreak c = true)
    (noOperator : ¬(first :: tail = ['2'] ∧ rest.head? = some '>')) :
    lexeme first (tail ++ rest) = (.word (String.ofList (first :: tail)), rest) := by
  have firstUnbroken := unbroken first List.mem_cons_self
  have inside : ∀ c ∈ tail, (!isWordBreak c) = true := by
    intro c member
    simp [unbroken c (List.mem_cons_of_mem first member)]
  have stops : rest.takeWhile (!isWordBreak ·) = [] ∧ rest.dropWhile (!isWordBreak ·) = rest := by
    cases rest with
    | nil => exact ⟨rfl, rfl⟩
    | cons c behind => simp [ends c rfl]
  have bare : bareWord first (tail ++ rest) = (.word (String.ofList (first :: tail)), rest) := by
    simp [bareWord, List.takeWhile_append_of_pos inside, List.dropWhile_append_of_pos inside, stops]
  simp only [isWordBreak, isOperatorChar, Bool.or_eq_false_iff, decide_eq_false_iff_not] at firstUnbroken
  obtain ⟨⟨_, notQuote⟩, ⟨⟨notInput, notOutput⟩, notPipe⟩, notBackground⟩ := firstUnbroken
  unfold lexeme
  rw [if_neg (by simp [notQuote]), if_neg notOutput, if_neg notInput, if_neg notBackground, if_neg notPipe]
  split
  · next equal _ =>
      -- The `>` that makes a `2` an operator is not of the word, so the word is the `2`.
      exfalso
      cases tail with
      | nil => exact noOperator ⟨rfl, by simpa using congrArg List.head? equal⟩
      | cons c others =>
          obtain ⟨rfl, _⟩ := List.cons.inj equal
          exact absurd (unbroken '>' (by simp)) (by decide)
  · exact bare

private theorem lexeme_bareWord {first : Char} {tail rest : List Char}
    (unbroken : ∀ c ∈ first :: tail, isWordBreak c = false) (parted : Parted rest) :
    lexeme first (tail ++ rest) = (.word (String.ofList (first :: tail)), rest) :=
  lexeme_unbroken unbroken (fun c next => (parted c next).1) fun operator => (parted '>' operator.2).2 rfl

theorem scan_bareWord {word rest : List Char} (nonempty : word ≠ [])
    (unbroken : ∀ c ∈ word, isWordBreak c = false) (parted : Parted rest) :
    scan (word ++ rest) = .word (String.ofList word) :: scan rest := by
  cases word with
  | nil => exact absurd rfl nonempty
  | cons first tail =>
      have visible := not_blank_of_unbroken (unbroken first List.mem_cons_self)
      rw [List.cons_append, scan_cons_visible _ visible, lexeme_bareWord unbroken parted]

theorem outputToken_alone (truncating appending : Operator) {rest : List Char}
    (alone : rest.head? ≠ some '>') : outputToken truncating appending rest = (.redirect truncating, rest) := by
  unfold outputToken
  split
  · exact absurd rfl alone
  · rfl

private theorem outputToken_of_parted (truncating appending : Operator) {rest : List Char} (parted : Parted rest) :
    outputToken truncating appending rest = (.redirect truncating, rest) :=
  outputToken_alone truncating appending fun sign => (parted '>' sign).2 rfl

theorem scan_operator (operator : Operator) {rest : List Char} (parted : Parted rest) :
    scan (operator.symbol.toList ++ rest) = .redirect operator :: scan rest := by
  have alone := outputToken_of_parted
  cases operator with
  | input =>
      have written : Operator.input.symbol.toList = ['<'] := by decide
      rw [written]
      exact scan_cons_visible rest (by decide)
  | output =>
      have written : Operator.output.symbol.toList = ['>'] := by decide
      rw [written, List.singleton_append, scan_cons_visible rest (by decide)]
      simp [lexeme, isQuote, alone _ _ parted]
  | outputAppend =>
      have written : Operator.outputAppend.symbol.toList = ['>', '>'] := by decide
      rw [written]
      exact scan_cons_visible ('>' :: rest) (by decide)
  | error =>
      have written : Operator.error.symbol.toList = ['2', '>'] := by decide
      rw [written, List.cons_append, List.singleton_append, scan_cons_visible ('>' :: rest) (by decide)]
      simp [lexeme, isQuote, alone _ _ parted]
  | errorAppend =>
      have written : Operator.errorAppend.symbol.toList = ['2', '>', '>'] := by decide
      rw [written]
      exact scan_cons_visible ('>' :: '>' :: rest) (by decide)

theorem scan_pipe (rest : List Char) : scan ('|' :: rest) = .pipe :: scan rest :=
  scan_cons_visible rest (by decide)

theorem scan_background (rest : List Char) : scan ('&' :: rest) = .background :: scan rest :=
  scan_cons_visible rest (by decide)

/-! ## The words of a scan -/

private theorem quotable_of_absent (quote : Char) (isQuoted : isQuote quote = true) {word : List Char}
    (absent : quote ∉ word) : Quotable (String.ofList word) := by
  rintro ⟨double, single⟩
  rw [String.toList_ofList] at double single
  simp only [isQuote, Bool.or_eq_true, decide_eq_true_eq] at isQuoted
  rcases isQuoted with rfl | rfl
  · exact absent double
  · exact absent single

private theorem quotable_of_quotedWord {quote : Char} (isQuoted : isQuote quote = true) {rest : List Char}
    {word : String} (found : (quotedWord quote rest).1 = .word word) : Quotable word := by
  cases found
  refine quotable_of_absent quote isQuoted fun member => ?_
  have kept : ∀ c ∈ rest.takeWhile (· != quote), (c != quote) = true := List.all_eq_true.mp List.all_takeWhile
  simpa using kept quote member

private theorem quotable_of_bareWord {first : Char} (notQuote : ¬isQuote first = true) {rest : List Char}
    {word : String} (found : (bareWord first rest).1 = .word word) : Quotable word := by
  cases found
  refine quotable_of_absent '"' rfl fun member => ?_
  rcases List.mem_cons.mp member with rfl | member
  · exact notQuote rfl
  · have kept : ∀ c ∈ rest.takeWhile (!isWordBreak ·), (!isWordBreak c) = true :=
      List.all_eq_true.mp List.all_takeWhile
    exact absurd (kept '"' member) (by decide)

private theorem outputToken_ne_word (truncating appending : Operator) (rest : List Char) (word : String) :
    ¬(outputToken truncating appending rest).1 = .word word := by
  unfold outputToken
  split <;> simp

/-- A quoted word lacks its own quote, and a bare word lacks both. -/
theorem quotable_of_lexeme {first : Char} {rest : List Char} {word : String}
    (found : (lexeme first rest).1 = .word word) : Quotable word := by
  unfold lexeme at found
  split at found
  · next isQuoted => exact quotable_of_quotedWord isQuoted found
  · next notQuote =>
      split at found
      · exact absurd found (outputToken_ne_word _ _ _ _)
      · split at found
        · cases found
        · split at found
          · cases found
          · split at found
            · cases found
            · split at found
              · exact absurd found (outputToken_ne_word _ _ _ _)
              · exact quotable_of_bareWord notQuote found

private theorem quotable_of_next? {text rest : List Char} {word : String}
    (found : next? text = some (.word word, rest)) : Quotable word := by
  unfold next? at found
  split at found
  · cases found
  · next first behind _ =>
      have token : (lexeme first behind).1 = .word word := by rw [Option.some.inj found]
      exact quotable_of_lexeme token

/-- Every word that a text is split into can be written. -/
theorem quotable_of_mem_scan {text : List Char} {word : String} (member : .word word ∈ scan text) :
    Quotable word := by
  fun_induction scan text with
  | case1 => simp at member
  | case2 text token rest found ih =>
      rcases List.mem_cons.mp member with rfl | member
      · exact quotable_of_next? found
      · exact ih member

end PipeShell.Token
