import PipeShell.Proofs.Line.RoundTrip
import PipeShell.Proofs.Line.Trimming

/-! # Where a line falls apart

A blank, `|`, `&` and `<` part a text: no lexeme reaches over one of them, so the tokens of a
text with one of them in it are those of the two parts, with its own token between them. A `>`
is no such character. Another one may follow it, and a `2` in front of it goes with it.

Tokens that are written with blanks between them are read back as they were, whatever they are.
So the tokens that a text can have are exactly those whose words can be written.

A line without operators and quotes is parted by its blanks and nowhere else, and so are the
fields of its text. So it is one stage with the fields as its arguments, unless it is blank. -/

set_option autoImplicit false

namespace PipeShell

namespace Token

open Text

/-! ## Separators -/

/-- `Separator c tokens`: outside of quotes the character `c` parts a text, and it is itself read
as `tokens`. -/
inductive Separator : Char → List Token → Prop where
  | blank {c : Char} : isBlank c = true → Separator c []
  | pipe : Separator '|' [.pipe]
  | background : Separator '&' [.background]
  | input : Separator '<' [.redirect .input]

namespace Separator

variable {c : Char} {tokens : List Token}

private theorem parted (separator : Separator c tokens) (rest : List Char) : Parted (c :: rest) := by
  cases separator with
  | blank blank => exact parted_cons_blank rest blank
  | pipe | background | input =>
      intro other first
      cases first
      decide

theorem scan_cons (separator : Separator c tokens) (rest : List Char) :
    scan (c :: rest) = tokens ++ scan rest := by
  cases separator with
  | blank blank => exact scan_cons_blank rest blank
  | pipe => exact scan_pipe rest
  | background => exact scan_background rest
  | input => exact scan_cons_visible rest (by decide)

end Separator

/-- Tokens do not reach over a separator: unless a quote is open in front of it, the text falls
apart there. -/
theorem tokenize_append_separator (front back : String) (unquoted : EndsUnquoted front.toList) {c : Char}
    {tokens : List Token} (separator : Separator c tokens) :
    tokenize (front ++ String.singleton c ++ back) = tokenize front ++ tokens ++ tokenize back := by
  have written : (front ++ String.singleton c ++ back).toList = front.toList ++ c :: back.toList := by
    simp [String.toList_append]
  rw [tokenize, written, scan_append unquoted (separator.parted back.toList), separator.scan_cons,
    ← List.append_assoc]
  rfl

/-- In front of the `<` a closed quote and an error operator, behind it a `>`. -/
theorem tokenize_append_separator_operator :
    EndsUnquoted "say 'a|b'2>".toList ∧ Separator '<' [.redirect .input] ∧
      tokenize ("say 'a|b'2>" ++ String.singleton '<' ++ ">2") =
        [.word "say", .word "a|b", .redirect .error, .redirect .input, .redirect .output, .word "2"] := by
  have unquoted : EndsUnquoted "say 'a|b'2>".toList := by decide
  refine ⟨unquoted, .input, ?_⟩
  rw [tokenize_append_separator _ _ unquoted .input]
  cbv

theorem scan_unbroken {word : List Char} (nonempty : word ≠ []) (unbroken : ∀ c ∈ word, isWordBreak c = false) :
    scan word = [.word (String.ofList word)] := by
  have read := scan_bareWord nonempty unbroken parted_nil
  rwa [List.append_nil, scan_nil] at read

/-- No other character parts a text, whatever it is read as itself: something can follow it that
goes into the same token. -/
theorem separator_of_tokenize {c : Char} {tokens : List Token}
    (parts : ∀ back, tokenize (String.singleton c ++ back) = tokens ++ tokenize back) : Separator c tokens := by
  have alone : tokens = scan [c] := by simpa [tokenize] using (parts "").symm
  have joined (d : Char) : scan [c, d] = scan [c] ++ scan [d] := by
    simpa [tokenize, alone] using parts (String.singleton d)
  by_cases blank : isBlank c = true
  · rw [alone, scan_cons_blank [] blank, scan_nil]
    exact .blank blank
  have visible : isBlank c = false := by simpa using blank
  -- Two visible characters can be one token, but never if the first one parts the text.
  have unjoined (d : Char) (visibleNext : isBlank d = false) (token : Token) : scan [c, d] ≠ [token] := by
    rw [joined, scan_cons_visible [] visible, scan_cons_visible [] visibleNext]
    simp
  by_cases sign : isOperatorChar c = true
  · simp only [isOperatorChar, Bool.or_eq_true, decide_eq_true_eq] at sign
    rw [alone]
    rcases sign with ((rfl | rfl) | rfl) | rfl
    · rw [Separator.input.scan_cons, scan_nil]
      exact .input
    · have one : scan ['>', '>'] = [.redirect .outputAppend] := by
        rw [scan_cons_visible ['>'] visible]
        exact congrArg _ scan_nil
      exact absurd one (unjoined '>' (by decide) _)
    · rw [Separator.pipe.scan_cons, scan_nil]
      exact .pipe
    · rw [Separator.background.scan_cons, scan_nil]
      exact .background
  by_cases quote : isQuote c = true
  · have absent : c ∉ ['a'] := by
      rintro member
      cases List.mem_singleton.mp member
      cases quote
    have one : scan ([] ++ c :: ['a']) = scan [] ++ [.word (String.ofList ['a'])] := scan_append_open quote rfl absent
    rw [scan_nil] at one
    exact absurd one (unjoined 'a' (by decide) _)
  · have unbroken : ∀ d ∈ [c, 'a'], isWordBreak d = false := by
      simpa [isWordBreak, visible, sign, quote] using (by decide : isWordBreak 'a' = false)
    exact absurd (scan_unbroken (List.cons_ne_nil c ['a']) unbroken) (unjoined 'a' (by decide) _)

/-! ## Tokens with blanks between them -/

/-- The text of a token: words as a line has them, everything else by its sign. -/
def written : Token → List Char
  | .word text => Line.renderWord text
  | .pipe => ['|']
  | .redirect operator => operator.symbol.toList
  | .background => ['&']

private theorem scan_written {token : Token} (quotable : ∀ word, token = .word word → Quotable word) {rest : List Char}
    (parted : Parted rest) : scan (token.written ++ rest) = token :: scan rest := by
  cases token with
  | word text => exact Line.scan_renderWord (quotable text rfl) parted
  | pipe => exact scan_pipe rest
  | redirect operator => exact scan_operator operator parted
  | background => exact scan_background rest

/-- Some blanks, then each token with the blanks behind it. -/
def spaced (gap : List Char) (items : List (Token × List Char)) : List Char :=
  gap ++ items.flatMap fun (token, behind) => token.written ++ behind

/-- Nothing but blanks stands around the tokens, and at least one between any two. -/
structure Spacing (gap : List Char) (items : List (Token × List Char)) : Prop where
  start : Blanks gap
  blank : ∀ item ∈ items, Blanks item.2
  apart : ∀ item ∈ items.dropLast, item.2 ≠ []

theorem Spacing.tail {gap behind : List Char} {token : Token} {items : List (Token × List Char)}
    (spacing : Spacing gap ((token, behind) :: items)) : Spacing behind items where
  start := spacing.blank (token, behind) List.mem_cons_self
  blank := fun item member => spacing.blank item (List.mem_cons_of_mem _ member)
  apart := by
    cases items with
    | nil => simp
    | cons next rest => exact fun item member => spacing.apart item (List.mem_cons_of_mem _ member)

private theorem Spacing.parted {gap behind : List Char} {token : Token} {items : List (Token × List Char)}
    (spacing : Spacing gap ((token, behind) :: items)) : Parted (spaced behind items) := by
  have blank := spacing.tail.start
  cases items with
  | nil => simpa [spaced] using parted_of_blanks blank
  | cons next rest =>
      have nonempty : behind ≠ [] := spacing.apart (token, behind) List.mem_cons_self
      obtain ⟨c, others, rfl⟩ := List.exists_cons_of_ne_nil nonempty
      exact parted_cons_blank _ (blank c List.mem_cons_self)

private theorem scan_spaced {gap : List Char} {items : List (Token × List Char)} (spacing : Spacing gap items)
    (quotable : ∀ word, .word word ∈ items.map (·.1) → Quotable word) :
    scan (spaced gap items) = items.map (·.1) := by
  induction items generalizing gap with
  | nil => simpa [spaced] using (Decomposes.last spacing.start).scan
  | cons item items ih =>
      obtain ⟨token, behind⟩ := item
      have shape : spaced gap ((token, behind) :: items) = gap ++ (token.written ++ spaced behind items) := by
        simp [spaced]
      rw [shape, scan_blanks_append spacing.start, scan_written _ spacing.parted, ih spacing.tail]
      · rfl
      · exact fun word member => quotable word (List.mem_cons_of_mem _ member)
      · rintro word rfl
        exact quotable word List.mem_cons_self

/-- A single space behind each token is enough. -/
theorem spacing_spaces (tokens : List Token) : Spacing [] (tokens.map fun token => (token, [' '])) := by
  have space : Blanks [' '] := by
    intro c member
    cases List.mem_singleton.mp member
    decide
  constructor
  · exact fun c member => absurd member List.not_mem_nil
  · intro item member
    obtain ⟨token, _, rfl⟩ := List.mem_map.mp member
    exact space
  · intro item member
    obtain ⟨token, _, rfl⟩ := List.mem_map.mp (List.mem_of_mem_dropLast member)
    exact List.cons_ne_nil _ _

/-- Tokens are those of some text exactly when each of their words can be written. Then they are
the tokens of every text that has them in this order with blanks between them. -/
theorem exists_tokenize_eq_iff :
    (∀ tokens : List Token, (∃ line, tokenize line = tokens) ↔ ∀ word, .word word ∈ tokens → Quotable word) ∧
      ∀ gap items, Spacing gap items →
        (tokenize (String.ofList (spaced gap items)) = items.map (·.1) ↔
          ∀ word, .word word ∈ items.map (·.1) → Quotable word) := by
  have back (gap : List Char) (items : List (Token × List Char)) (spacing : Spacing gap items)
      (quotable : ∀ word, .word word ∈ items.map (·.1) → Quotable word) :
      tokenize (String.ofList (spaced gap items)) = items.map (·.1) := by
    rw [tokenize, String.toList_ofList]
    exact scan_spaced spacing quotable
  have forth (line : String) (word : String) (member : .word word ∈ tokenize line) : Quotable word :=
    quotable_of_mem_scan member
  constructor
  · intro tokens
    constructor
    · rintro ⟨line, rfl⟩
      exact forth line
    · intro quotable
      have first : (tokens.map fun token => (token, [' '])).map (·.1) = tokens := by simp [Function.comp_def]
      have read := back [] _ (spacing_spaces tokens) (by rwa [first])
      exact ⟨_, read.trans first⟩
  · intro gap items spacing
    constructor
    · intro same
      rw [← same]
      exact forth _
    · exact back gap items spacing

/-- Operators in a row, a `2` in front of one, an empty word, and a word with a quote in it. -/
theorem tokenize_spaced_operators :
    let items : List (Token × List Char) := [(.word "2", ['\u3000']), (.redirect .output, [' ']),
      (.redirect .output, ['\t', ' ']), (.word "", [' ']), (.word "it's", ['\n']), (.redirect .error, [])]
    Spacing [' '] items ∧ (∀ word, .word word ∈ items.map (·.1) → Quotable word) ∧
      tokenize " 2\u3000> >\t \"\" \"it's\"\n2>" = items.map (·.1) := by
  intro items
  have spacing : Spacing [' '] items := by
    constructor <;> simp [items, Blanks, isBlank, blankRanges]
  have quotable : ∀ word, .word word ∈ items.map (·.1) → Quotable word := by
    have words : Quotable "2" ∧ Quotable "" ∧ Quotable "it's" := by decide
    simpa [items] using words
  have text : String.ofList (spaced [' '] items) = " 2\u3000> >\t \"\" \"it's\"\n2>" := by decide
  exact ⟨spacing, quotable, text ▸ (exists_tokenize_eq_iff.2 _ _ spacing).mpr quotable⟩

end Token

namespace Text

/-! ## Fields -/

/-- The fields are the parts between blanks that are not empty, and the first part is the one that
the front field would go on with. -/
theorem foldr_consField (text : List Char) : ∃ front rest, text.splitOnP isBlank = front :: rest ∧
    text.foldr consField (false, []) = (!front.isEmpty, (front :: rest).filter (!·.isEmpty)) := by
  induction text with
  | nil => exact ⟨[], [], List.splitOnP_nil, rfl⟩
  | cons c text ih =>
      obtain ⟨front, rest, split, folded⟩ := ih
      rw [List.splitOnP_cons_eq_if_modifyHead, split, List.foldr_cons, folded]
      by_cases blank : isBlank c = true
      · exact ⟨[], front :: rest, if_pos blank, by simp [consField, blank]⟩
      · refine ⟨c :: front, rest, by simp [blank], ?_⟩
        cases front <;> simp [consField, blank]

theorem fields_eq_splitOnP (text : List Char) : fields text = (text.splitOnP isBlank).filter (!·.isEmpty) := by
  obtain ⟨front, rest, split, folded⟩ := foldr_consField text
  rw [fields, folded, split]

/-- A blank ends a field and belongs to none. -/
theorem fields_append_blank {c : Char} (blank : isBlank c = true) (front back : List Char) :
    fields (front ++ c :: back) = fields front ++ fields back := by
  simp only [fields_eq_splitOnP, List.splitOnP_append_cons front back blank, List.filter_append]

private theorem fields_of_visible {word : List Char} (visible : ∀ c ∈ word, isBlank c = false) (nonempty : word ≠ []) :
    fields word = [word] := by
  simp [fields_eq_splitOnP, List.splitOnP_eq_singleton visible, nonempty]

end Text

namespace Token

open Text

/-! ## The tokens of a plain text -/

/-- There are no operators and no quotes in the text. -/
def Plain (text : List Char) : Prop := ∀ c ∈ text, isQuote c = false ∧ isOperatorChar c = false

theorem Plain.endsUnquoted {text : List Char} (plain : Plain text) : EndsUnquoted text :=
  foldl_quoteAfter_unquoted fun c member => (plain c member).1

private theorem Plain.of_append {front back : List Char} (plain : Plain (front ++ back)) : Plain front ∧ Plain back :=
  ⟨fun c member => plain c (List.mem_append_left back member),
    fun c member => plain c (List.mem_append_right front member)⟩

/-- The words of a plain text are its fields. -/
theorem scan_of_plain {text : List Char} (plain : Plain text) :
    scan text = (fields text).map fun field => .word (String.ofList field) := by
  induction length : text.length using Nat.strongRecOn generalizing text with
  | ind n ih =>
      by_cases cut : ∃ c ∈ text, isBlank c = true
      · obtain ⟨c, member, blank⟩ := cut
        obtain ⟨front, back, rfl⟩ := List.append_of_mem member
        obtain ⟨plainFront, plainRest⟩ := plain.of_append
        have plainBack : Plain back := fun d inBack => plainRest d (List.mem_cons_of_mem c inBack)
        rw [List.length_append, List.length_cons] at length
        have first := ih front.length (by omega) plainFront rfl
        have second := ih back.length (by omega) plainBack rfl
        rw [scan_append plainFront.endsUnquoted (parted_cons_blank back blank), scan_cons_blank back blank,
          fields_append_blank blank, List.map_append, first, second]
      · have visible : ∀ c ∈ text, isBlank c = false := by simpa using cut
        by_cases empty : text = []
        · rw [empty, scan_nil]
          rfl
        · have unbroken : ∀ c ∈ text, isWordBreak c = false := by
            intro c member
            simp [isWordBreak, visible c member, plain c member]
          rw [scan_unbroken empty unbroken, fields_of_visible visible empty, List.map_singleton]

private theorem scan_trim {text : List Char} (unquoted : EndsUnquoted text) : scan (trim text) = scan text := by
  have start : EndsUnquoted (trimStart text) := (openQuote?_trimStart text).trans unquoted
  rw [trim, scan_trimEnd start, scan_trimStart]

private theorem scan_eq_nil_iff (text : List Char) : scan text = [] ↔ Blanks text := by
  constructor
  · intro nothing
    rw [scan] at nothing
    split at nothing
    · next found => exact blanks_of_next? found
    · cases nothing
  · exact fun blank => (Decomposes.last blank).scan

end Token

namespace Line

open Token

/-- Words alone make up one stage. -/
theorem build_words {words : List String} (nonempty : words ≠ []) :
    build (words.map .word) = .ok { stages := [⟨words⟩] } := by
  have only : (Line.mk [⟨words⟩] none none none false).tokens = words.map .word := by
    simp [tokens, pipelineTokens, stageTokens, redirectTokens]
  rw [← only]
  exact build_tokens (List.cons_ne_nil _ _) (by simpa using nonempty)

/-- A plain line is split at its blanks: it is one stage whose arguments are the fields of its text,
without redirections and in the foreground, or nothing if it is blank. -/
theorem parse_plain (input : String) (plain : Plain input.toList) :
    parse input = .ok (if input.toList.all Text.isBlank then none else
      some {
        stages := [⟨(Text.fields input.toList).map String.ofList⟩]
        input := none
        output := none
        error := none
        background := false }) := by
  have words : scan input.toList = ((Text.fields input.toList).map String.ofList).map .word := by
    rw [scan_of_plain plain, List.map_map]
    rfl
  have blank_iff : input.toList.all Text.isBlank = true ↔ Text.fields input.toList = [] := by
    rw [List.all_eq_true, ← Blanks, ← scan_eq_nil_iff, words, List.map_eq_nil_iff, List.map_eq_nil_iff]
  rw [parse, ofInput, scan_trim plain.endsUnquoted, words]
  by_cases nothing : Text.fields input.toList = []
  · rw [nothing, if_pos (blank_iff.mpr nothing)]
    rfl
  · rw [build_words (by simpa using nothing), if_neg (mt blank_iff.mp nothing)]
    rfl

/-- Blanks of three kinds, and digits that would belong to an operator in front of a `>`. -/
theorem parse_plain_digits :
    Plain " 2\u3000echo\t 2a\u00a0".toList ∧
      parse " 2\u3000echo\t 2a\u00a0" = .ok (some ⟨[⟨["2", "echo", "2a"]⟩], none, none, none, false⟩) := by
  have characters : " 2\u3000echo\t 2a\u00a0".toList =
      [' ', '2', '\u3000', 'e', 'c', 'h', 'o', '\t', ' ', '2', 'a', '\u00a0'] := by rfl
  have plain : Plain " 2\u3000echo\t 2a\u00a0".toList := by simp [Plain, isQuote, isOperatorChar]
  refine ⟨plain, ?_⟩
  rw [parse_plain _ plain, characters]
  rfl

end Line

end PipeShell
