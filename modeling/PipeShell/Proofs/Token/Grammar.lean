import Mathlib.Data.List.TakeWhile
import PipeShell.Proofs.Token.Scanning

/-! # The grammar of tokens

What the lexemes of a text are, said without a scanner: a text is blanks, then a
lexeme, then blanks, and so on, up to a last run of blanks. A lexeme is judged
together with all that follows it, so that the longest match is part of the
judgement. Every text falls apart in exactly one way, and the scanner finds it.
So a text can be cut between two tokens. -/

set_option autoImplicit false

namespace PipeShell.Token

open Text

/-- `Lexeme text rest token`: in front of `rest`, the characters of `text` are one
lexeme, and it is read as `token`. -/
inductive Lexeme : List Char → List Char → Token → Prop where
  | quoted {quote : Char} {inner rest : List Char} :
      isQuote quote = true → quote ∉ inner →
      Lexeme (quote :: (inner ++ [quote])) rest (.word (String.ofList inner))
  | unterminated {quote : Char} {inner : List Char} :
      isQuote quote = true → quote ∉ inner →
      Lexeme (quote :: inner) [] (.word (String.ofList inner))
  | errorAppend {rest : List Char} : Lexeme ['2', '>', '>'] rest (.redirect .errorAppend)
  | error {rest : List Char} : rest.head? ≠ some '>' → Lexeme ['2', '>'] rest (.redirect .error)
  | outputAppend {rest : List Char} : Lexeme ['>', '>'] rest (.redirect .outputAppend)
  | output {rest : List Char} : rest.head? ≠ some '>' → Lexeme ['>'] rest (.redirect .output)
  | input {rest : List Char} : Lexeme ['<'] rest (.redirect .input)
  | background {rest : List Char} : Lexeme ['&'] rest .background
  | pipe {rest : List Char} : Lexeme ['|'] rest .pipe
  | bare {word rest : List Char} :
      word ≠ [] → (∀ c ∈ word, isWordBreak c = false) →
      (∀ c, rest.head? = some c → isWordBreak c = true) →
      ¬(word = ['2'] ∧ rest.head? = some '>') →
      Lexeme word rest (.word (String.ofList word))

/-- A lexeme of a text with its token and the blanks in front of it. -/
structure Piece where
  gap : List Char
  text : List Char
  token : Token

/-- A run of blanks, which may be empty. -/
def Blanks (gap : List Char) : Prop := ∀ c ∈ gap, isBlank c = true

/-- `Decomposes whole pieces last`: the text `whole` is the given pieces, one after
the other, and at last the blanks `last`. -/
inductive Decomposes : List Char → List Piece → List Char → Prop where
  | last {gap : List Char} : Blanks gap → Decomposes gap [] gap
  | piece {gap text rest last : List Char} {token : Token} {pieces : List Piece} :
      Blanks gap → Lexeme text rest token → Decomposes rest pieces last →
      Decomposes (gap ++ (text ++ rest)) (⟨gap, text, token⟩ :: pieces) last

/-! ## A lexeme is what the scanner reads -/

theorem quotedWord_open {quote : Char} {inner : List Char} (absent : quote ∉ inner) :
    quotedWord quote inner = (.word (String.ofList inner), []) := by
  have inside : ∀ c ∈ inner, (c != quote) = true := by
    intro c member
    simp only [bne_iff_ne, ne_eq]
    rintro rfl
    exact absent member
  simp [quotedWord, List.takeWhile_eq_self_iff.mpr inside, List.dropWhile_eq_nil_iff.mpr inside]

theorem lexeme_of_isQuote {quote : Char} (isQuoted : isQuote quote = true) (rest : List Char) :
    lexeme quote rest = quotedWord quote rest :=
  if_pos isQuoted

theorem Lexeme.reads {text rest : List Char} {token : Token} (lexed : Lexeme text rest token) :
    ∃ first tail, text = first :: tail ∧ isBlank first = false ∧
      lexeme first (tail ++ rest) = (token, rest) := by
  cases lexed with
  | @quoted quote inner _ isQuoted absent =>
      refine ⟨quote, inner ++ [quote], rfl, not_blank_of_isQuote isQuoted, ?_⟩
      rw [lexeme_of_isQuote isQuoted, List.append_assoc, List.singleton_append, quotedWord_closed absent]
  | @unterminated quote inner isQuoted absent =>
      refine ⟨quote, inner, rfl, not_blank_of_isQuote isQuoted, ?_⟩
      rw [lexeme_of_isQuote isQuoted, List.append_nil, quotedWord_open absent]
  | errorAppend => exact ⟨'2', ['>', '>'], rfl, by decide, rfl⟩
  | error alone => exact ⟨'2', ['>'], rfl, by decide, outputToken_alone .error .errorAppend alone⟩
  | outputAppend => exact ⟨'>', ['>'], rfl, by decide, rfl⟩
  | output alone => exact ⟨'>', [], rfl, by decide, outputToken_alone .output .outputAppend alone⟩
  | input => exact ⟨'<', [], rfl, by decide, rfl⟩
  | background => exact ⟨'&', [], rfl, by decide, rfl⟩
  | pipe => exact ⟨'|', [], rfl, by decide, rfl⟩
  | bare nonempty unbroken ends noOperator =>
      cases text with
      | nil => exact absurd rfl nonempty
      | cons first tail =>
          exact ⟨first, tail, rfl, not_blank_of_unbroken (unbroken first List.mem_cons_self),
            lexeme_unbroken unbroken ends noOperator⟩

theorem Lexeme.ne_nil {text rest : List Char} {token : Token} (lexed : Lexeme text rest token) : text ≠ [] := by
  obtain ⟨first, tail, rfl, _, _⟩ := lexed.reads
  exact List.cons_ne_nil first tail

/-! ## What the scanner reads is a lexeme -/

private theorem exists_lexeme_quoted {quote : Char} (isQuoted : isQuote quote = true) (rest : List Char) :
    ∃ text, quote :: rest = text ++ (quotedWord quote rest).2 ∧
      Lexeme text (quotedWord quote rest).2 (quotedWord quote rest).1 := by
  by_cases closes : quote ∈ rest
  · obtain ⟨inner, behind, rfl, absent⟩ := List.eq_append_cons_of_mem closes
    rw [quotedWord_closed absent]
    exact ⟨quote :: (inner ++ [quote]), by simp, .quoted isQuoted absent⟩
  · rw [quotedWord_open closes]
    exact ⟨quote :: rest, by simp, .unterminated isQuoted closes⟩

/-- Both output operators are one sign `short` or that sign and another `>`. -/
theorem exists_lexeme_outputToken {short : List Char} {truncating appending : Operator} (rest : List Char)
    (once : ∀ behind : List Char, behind.head? ≠ some '>' → Lexeme short behind (.redirect truncating))
    (twice : ∀ behind, Lexeme (short ++ ['>']) behind (.redirect appending)) :
    ∃ text, short ++ rest = text ++ (outputToken truncating appending rest).2 ∧
      Lexeme text (outputToken truncating appending rest).2 (outputToken truncating appending rest).1 := by
  unfold outputToken
  split
  · next behind => exact ⟨short ++ ['>'], by simp, twice behind⟩
  · next single => exact ⟨short, rfl, once rest (fun sign => by cases rest <;> simp_all)⟩

private theorem exists_lexeme_bare {first : Char} {rest : List Char} (unbroken : isWordBreak first = false)
    (noOperator : ¬(first = '2' ∧ rest.head? = some '>')) :
    ∃ text, first :: rest = text ++ (bareWord first rest).2 ∧
      Lexeme text (bareWord first rest).2 (bareWord first rest).1 := by
  refine ⟨first :: rest.takeWhile (!isWordBreak ·), by simp [bareWord], ?_⟩
  refine .bare (List.cons_ne_nil _ _) ?_ ?_ ?_
  · intro c member
    rcases List.mem_cons.mp member with rfl | member
    · exact unbroken
    · simpa using List.mem_takeWhile_imp member
  · intro c next
    have stopped := List.head?_dropWhile_not (!isWordBreak ·) rest
    simp only [bareWord] at next
    simp_all
  · rintro ⟨alone, sign⟩
    obtain ⟨rfl, empty⟩ := List.cons.inj alone
    have parts : rest.takeWhile (!isWordBreak ·) ++ rest.dropWhile (!isWordBreak ·) = rest :=
      List.takeWhile_append_dropWhile
    rw [empty, List.nil_append] at parts
    exact noOperator ⟨rfl, parts ▸ sign⟩

private theorem exists_lexeme {first : Char} (visible : isBlank first = false) (rest : List Char) :
    ∃ text, first :: rest = text ++ (lexeme first rest).2 ∧
      Lexeme text (lexeme first rest).2 (lexeme first rest).1 := by
  unfold lexeme
  split
  · next isQuoted => exact exists_lexeme_quoted isQuoted rest
  · next notQuote =>
      split
      · next output => exact output ▸ exists_lexeme_outputToken rest (fun _ => .output) fun _ => .outputAppend
      · next notOutput =>
          split
          · next input => exact ⟨['<'], by simp [input], .input⟩
          · next notInput =>
              split
              · next background => exact ⟨['&'], by simp [background], .background⟩
              · next notBackground =>
                  split
                  · next pipe => exact ⟨['|'], by simp [pipe], .pipe⟩
                  · next notPipe =>
                      split
                      · next behind => exact exists_lexeme_outputToken behind (fun _ => .error) fun _ => .errorAppend
                      · next noOperator =>
                          refine exists_lexeme_bare ?_ ?_
                          · simp_all [isWordBreak, isOperatorChar]
                          · rintro ⟨rfl, sign⟩
                            cases rest <;> simp_all

/-! ## The next token -/

private theorem trimStart_blanks {gap : List Char} (blank : Blanks gap) (rest : List Char) :
    trimStart (gap ++ rest) = trimStart rest :=
  List.dropWhile_append_of_pos blank

private theorem next?_of_lexeme {gap text rest : List Char} {token : Token} (blank : Blanks gap)
    (lexed : Lexeme text rest token) : next? (gap ++ (text ++ rest)) = some (token, rest) := by
  obtain ⟨first, tail, rfl, visible, found⟩ := lexed.reads
  have skipped : trimStart (gap ++ (first :: tail ++ rest)) = first :: (tail ++ rest) := by
    rw [trimStart_blanks blank, List.cons_append, trimStart, List.dropWhile_cons_of_neg (by simp [visible])]
  simp only [next?, skipped, found]

private theorem next?_of_blanks {gap : List Char} (blank : Blanks gap) : next? gap = none := by
  have skipped : trimStart gap = [] := List.dropWhile_eq_nil_iff.mpr blank
  rw [next?, skipped]

theorem blanks_takeWhile (text : List Char) : Blanks (text.takeWhile isBlank) :=
  fun _ member => List.mem_takeWhile_imp member

theorem blanks_of_next? {text : List Char} (found : next? text = none) : Blanks text := by
  unfold next? at found
  split at found
  · next visible => exact List.dropWhile_eq_nil_iff.mp visible
  · cases found

/-- Whatever token comes next, it was read from a lexeme behind some blanks. -/
theorem exists_lexeme_of_next? {text rest : List Char} {token : Token} (found : next? text = some (token, rest)) :
    ∃ gap taken, text = gap ++ (taken ++ rest) ∧ Blanks gap ∧ Lexeme taken rest token := by
  unfold next? at found
  split at found
  · cases found
  · next first behind trimmed =>
      have visible : isBlank first = false := by
        have := List.head?_dropWhile_not isBlank text
        rw [trimStart] at trimmed
        simpa [trimmed] using this
      obtain ⟨taken, parts, lexed⟩ := exists_lexeme visible behind
      rw [Option.some.inj found] at parts lexed
      refine ⟨text.takeWhile isBlank, taken, ?_, blanks_takeWhile text, lexed⟩
      rw [← parts, ← trimmed, trimStart, List.takeWhile_append_dropWhile]

/-! ## The one decomposition of a text -/

theorem exists_decomposes (text : List Char) : ∃ pieces last, Decomposes text pieces last := by
  fun_induction scan text with
  | case1 text found => exact ⟨[], text, .last (blanks_of_next? found)⟩
  | case2 text token rest found ih =>
      obtain ⟨pieces, last, decomposed⟩ := ih
      obtain ⟨gap, taken, rfl, blank, lexed⟩ := exists_lexeme_of_next? found
      exact ⟨⟨gap, taken, token⟩ :: pieces, last, .piece blank lexed decomposed⟩

private theorem Lexeme.gap_eq {gap text rest : List Char} {token : Token} (blank : Blanks gap)
    (lexed : Lexeme text rest token) : (gap ++ (text ++ rest)).takeWhile isBlank = gap := by
  obtain ⟨first, tail, rfl, visible, _⟩ := lexed.reads
  rw [List.takeWhile_append_of_pos blank, List.cons_append, List.takeWhile_cons_of_neg (by simp [visible]),
    List.append_nil]

private theorem Decomposes.unique {text last otherLast : List Char} {pieces others : List Piece}
    (decomposed : Decomposes text pieces last) (other : Decomposes text others otherLast) :
    pieces = others ∧ last = otherLast := by
  induction decomposed generalizing others with
  | @last gap blank =>
      generalize whole : gap = text at other
      cases other with
      | last => exact ⟨rfl, rfl⟩
      | piece otherBlank otherLexed =>
          have found := next?_of_lexeme otherBlank otherLexed
          rw [← whole, next?_of_blanks blank] at found
          cases found
  | @piece gap taken rest last token pieces blank lexed _ ih =>
      have found := next?_of_lexeme blank lexed
      have gapped := lexed.gap_eq blank
      generalize whole : gap ++ (taken ++ rest) = text at other found gapped
      cases other with
      | last otherBlank =>
          rw [next?_of_blanks otherBlank] at found
          cases found
      | @piece otherGap otherTaken _ _ otherToken _ otherBlank otherLexed otherRest =>
          -- The scanner finds one token here, and one text is left behind it.
          rw [next?_of_lexeme otherBlank otherLexed] at found
          obtain ⟨rfl, rfl⟩ := Prod.mk.inj (Option.some.inj found)
          rw [otherLexed.gap_eq otherBlank] at gapped
          subst gapped
          obtain rfl := List.append_cancel_right (List.append_cancel_left whole)
          obtain ⟨rfl, rfl⟩ := ih otherRest
          exact ⟨rfl, rfl⟩

theorem scan_blanks_append {gap : List Char} (blank : Blanks gap) (behind : List Char) :
    scan (gap ++ behind) = scan behind := by
  induction gap with
  | nil => rfl
  | cons c rest ih =>
      rw [List.cons_append, scan_cons_blank _ (blank c List.mem_cons_self)]
      exact ih fun other member => blank other (List.mem_cons_of_mem c member)

theorem scan_of_lexeme {gap text rest : List Char} {token : Token} (blank : Blanks gap)
    (lexed : Lexeme text rest token) : scan (gap ++ (text ++ rest)) = token :: scan rest := by
  obtain ⟨first, tail, rfl, visible, found⟩ := lexed.reads
  rw [scan_blanks_append blank, List.cons_append, scan_cons_visible _ visible, found]

theorem Decomposes.scan {text last : List Char} {pieces : List Piece} (decomposed : Decomposes text pieces last) :
    scan text = pieces.map (·.token) := by
  induction decomposed with
  | @last gap blank =>
      rw [← List.append_nil gap, scan_blanks_append blank, scan_nil, List.map_nil]
  | piece blank lexed _ ih => rw [scan_of_lexeme blank lexed, ih, List.map_cons]

/-- No character is left out, and none is taken twice. -/
theorem Decomposes.flatten {text last : List Char} {pieces : List Piece} (decomposed : Decomposes text pieces last) :
    (pieces.flatMap fun piece => piece.gap ++ piece.text) ++ last = text := by
  induction decomposed with
  | last => rfl
  | piece _ _ _ ih => simp [← ih]

private theorem Decomposes.text_ne_nil {text last : List Char} {pieces : List Piece}
    (decomposed : Decomposes text pieces last) : ∀ piece ∈ pieces, piece.text ≠ [] := by
  induction decomposed with
  | last => simp
  | piece _ lexed _ ih =>
      intro piece member
      rcases List.mem_cons.mp member with rfl | member
      · exact lexed.ne_nil
      · exact ih piece member

private theorem Decomposes.length_le {text last : List Char} {pieces : List Piece}
    (decomposed : Decomposes text pieces last) : pieces.length ≤ text.length := by
  induction decomposed with
  | last => simp
  | piece _ lexed _ ih =>
      have nonempty := List.length_pos_iff.mpr lexed.ne_nil
      simp only [List.length_cons, List.length_append]
      omega

/-- The scanner meets the grammar on every line: the line falls apart into blanks
and lexemes in exactly one way, and its tokens are those of the lexemes, no more
than the line has characters. Wherever the scanner stands, it reads a whole lexeme
and so makes progress, or nothing but blanks is left. -/
theorem tokenize_decomposes (line : String) :
    (∃! split : List Piece × List Char, Decomposes line.toList split.1 split.2) ∧
      (∃ pieces last, Decomposes line.toList pieces last ∧ tokenize line = pieces.map (·.token) ∧
        (pieces.flatMap fun piece => piece.gap ++ piece.text) ++ last = line.toList ∧
        ∀ piece ∈ pieces, piece.text ≠ []) ∧
      (tokenize line).length ≤ line.length ∧
      ∀ text : List Char,
        match next? text with
        | none => Blanks text
        | some (token, rest) => ∃ gap taken, text = gap ++ (taken ++ rest) ∧ Blanks gap ∧
            Lexeme taken rest token ∧ rest.length < text.length := by
  obtain ⟨pieces, last, decomposed⟩ := exists_decomposes line.toList
  have tokens : tokenize line = pieces.map (·.token) := decomposed.scan
  refine ⟨⟨(pieces, last), decomposed, ?_⟩, ⟨pieces, last, decomposed, tokens, decomposed.flatten,
    decomposed.text_ne_nil⟩, ?_, ?_⟩
  · rintro ⟨others, otherLast⟩ other
    obtain ⟨rfl, rfl⟩ := other.unique decomposed
    rfl
  · rw [tokens, List.length_map, ← String.length_toList]
    exact decomposed.length_le
  · intro text
    cases found : next? text with
    | none => exact blanks_of_next? found
    | some next =>
        obtain ⟨gap, taken, parts, blank, lexed⟩ := exists_lexeme_of_next? found
        exact ⟨gap, taken, parts, blank, lexed, length_lt_of_next? found⟩

/-! ## Cutting a text between two tokens

Where no quote is open and a separator follows, a text can be cut: the tokens of
the whole are those of the two parts. It does not matter what the front part ends
with, a `2`, a `>` or half a word, since no lexeme reaches over a separator. -/

/-- The quote that is open behind one more character. Outside of quotes a quote
opens one; inside, only the same quote counts, and closes it. -/
def quoteAfter (quote? : Option Char) (c : Char) : Option Char :=
  match quote? with
  | none => if isQuote c then some c else none
  | some quote => if c = quote then none else some quote

/-- The quote that is open at the end of the text. -/
def openQuote? (text : List Char) : Option Char := text.foldl quoteAfter none

/-- The text does not end inside an unterminated quote. -/
def EndsUnquoted (text : List Char) : Prop := openQuote? text = none

instance (text : List Char) : Decidable (EndsUnquoted text) := inferInstanceAs (Decidable (_ = _))

theorem foldl_quoteAfter_unquoted {text : List Char} (unquoted : ∀ c ∈ text, isQuote c = false) :
    text.foldl quoteAfter none = none := by
  induction text with
  | nil => rfl
  | cons c rest ih =>
      have first : quoteAfter none c = none := by simp [quoteAfter, unquoted c List.mem_cons_self]
      rw [List.foldl_cons, first]
      exact ih fun other member => unquoted other (List.mem_cons_of_mem c member)

theorem foldl_quoteAfter_inside {quote : Char} {inner : List Char} (absent : quote ∉ inner) :
    inner.foldl quoteAfter (some quote) = some quote := by
  induction inner with
  | nil => rfl
  | cons c rest ih =>
      rw [List.mem_cons, not_or] at absent
      obtain ⟨different, absent⟩ := absent
      have first : quoteAfter (some quote) c = some quote := by
        simp [quoteAfter, Ne.symm different]
      rw [List.foldl_cons, first, ih absent]

theorem unquoted_of_blanks {gap : List Char} (blank : Blanks gap) : ∀ c ∈ gap, isQuote c = false := by
  intro c member
  cases quoted : isQuote c with
  | false => rfl
  | true => exact absurd (blank c member) (by simp [not_blank_of_isQuote quoted])

/-- Behind every lexeme no quote is open, unless the text ends in it. -/
theorem Lexeme.closed {text rest : List Char} {token : Token} (lexed : Lexeme text rest token) :
    text.foldl quoteAfter none = none ∨ rest = [] ∧ text.foldl quoteAfter none ≠ none := by
  cases lexed with
  | @quoted quote inner _ isQuoted absent =>
      left
      rw [List.foldl_cons, List.foldl_append]
      simp [quoteAfter, isQuoted, foldl_quoteAfter_inside absent]
  | @unterminated quote inner isQuoted absent =>
      right
      rw [List.foldl_cons]
      simp [quoteAfter, isQuoted, foldl_quoteAfter_inside absent]
  | errorAppend | error | outputAppend | output | input | background | pipe => exact .inl rfl
  | bare _ unbroken _ _ =>
      refine .inl (foldl_quoteAfter_unquoted fun c member => ?_)
      have whole := unbroken c member
      simp only [isWordBreak, Bool.or_eq_false_iff] at whole
      exact whole.1.2

private theorem head?_append_ne {rest behind : List Char} (alone : rest.head? ≠ some '>') (parted : Parted behind) :
    (rest ++ behind).head? ≠ some '>' := by
  cases rest with
  | nil => exact fun sign => (parted '>' sign).2 rfl
  | cons c others => exact alone

/-- A lexeme stays the same when a separator and more is put behind the text. -/
theorem Lexeme.append {text rest : List Char} {token : Token} (lexed : Lexeme text rest token)
    (closed : text.foldl quoteAfter none = none) {behind : List Char} (parted : Parted behind) :
    Lexeme text (rest ++ behind) token := by
  cases lexed with
  | quoted isQuoted absent => exact .quoted isQuoted absent
  | unterminated isQuoted absent =>
      simp [quoteAfter, isQuoted, foldl_quoteAfter_inside absent] at closed
  | errorAppend => exact .errorAppend
  | error alone => exact .error (head?_append_ne alone parted)
  | outputAppend => exact .outputAppend
  | output alone => exact .output (head?_append_ne alone parted)
  | input => exact .input
  | background => exact .background
  | pipe => exact .pipe
  | bare nonempty unbroken ends noOperator =>
      refine .bare nonempty unbroken ?_ ?_
      · cases rest with
        | nil => exact fun c next => (parted c next).1
        | cons => exact ends
      · rintro ⟨two, sign⟩
        exact head?_append_ne (fun sign => noOperator ⟨two, sign⟩) parted sign

theorem scan_append {front behind : List Char} (unquoted : EndsUnquoted front) (parted : Parted behind) :
    scan (front ++ behind) = scan front ++ scan behind := by
  obtain ⟨pieces, last, decomposed⟩ := exists_decomposes front
  induction decomposed with
  | last blank =>
      rw [scan_blanks_append blank, (Decomposes.last blank).scan, List.map_nil, List.nil_append]
  | @piece gap text rest last token pieces blank lexed _ ih =>
      simp only [EndsUnquoted, openQuote?, List.foldl_append,
        foldl_quoteAfter_unquoted (unquoted_of_blanks blank)] at unquoted ih
      rcases lexed.closed with closed | ⟨rfl, unterminated⟩
      · rw [closed] at unquoted
        rw [scan_of_lexeme blank lexed, List.append_assoc, List.append_assoc,
          scan_of_lexeme blank (lexed.append closed parted), ih unquoted, List.cons_append]
      · exact absurd unquoted unterminated

end PipeShell.Token
