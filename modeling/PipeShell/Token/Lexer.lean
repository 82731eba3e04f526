import PipeShell.Token
import PipeShell.Text.Blank

/-! # Splitting a line into tokens

Blanks separate tokens and belong to none. A quote opens a word that runs to the
next quote of the same kind, or to the end of the line; nothing inside it is
special. The operators need no blanks around them, but `2>` and `2>>` count only
where a token begins. Every other run of characters is a bare word. Splitting
never fails. -/

set_option autoImplicit false

namespace PipeShell.Token

open Text

def isQuote (c : Char) : Bool := c = '"' || c = '\''

/-- The characters of the operators, which end a bare word. -/
def isOperatorChar (c : Char) : Bool := c = '<' || c = '>' || c = '|' || c = '&'

/-- A bare word ends in front of a blank, a quote or an operator. -/
def isWordBreak (c : Char) : Bool := isBlank c || isQuote c || isOperatorChar c

/-- The token of an output operator whose first sign was just read, in its
truncating or its appending form. -/
def outputToken (truncating appending : Operator) : List Char → Token × List Char
  | '>' :: rest => (.redirect appending, rest)
  | rest => (.redirect truncating, rest)

/-- A word whose opening quote was just read, and what follows its end. -/
def quotedWord (quote : Char) (rest : List Char) : Token × List Char :=
  (.word (String.ofList (rest.takeWhile (· != quote))), (rest.dropWhile (· != quote)).drop 1)

/-- A bare word with its first character, and what follows it. -/
def bareWord (first : Char) (rest : List Char) : Token × List Char :=
  (.word (String.ofList (first :: rest.takeWhile (!isWordBreak ·))), rest.dropWhile (!isWordBreak ·))

/-- The token that begins with the visible character `first`, and what follows
it. -/
def lexeme (first : Char) (rest : List Char) : Token × List Char :=
  if isQuote first then quotedWord first rest
  else if first = '>' then outputToken .output .outputAppend rest
  else if first = '<' then (.redirect .input, rest)
  else if first = '&' then (.background, rest)
  else if first = '|' then (.pipe, rest)
  else
    match first, rest with
    | '2', '>' :: rest => outputToken .error .errorAppend rest
    | first, rest => bareWord first rest

/-- The first token of the text and what follows it; nothing when the text is
blank. -/
def next? (text : List Char) : Option (Token × List Char) :=
  match trimStart text with
  | [] => none
  | first :: rest => some (lexeme first rest)

theorem length_dropWhile_le {α : Type} (keep : α → Bool) (items : List α) :
    (items.dropWhile keep).length ≤ items.length :=
  (List.dropWhile_suffix keep).length_le

theorem length_outputToken_le (truncating appending : Operator) (rest : List Char) :
    (outputToken truncating appending rest).2.length ≤ rest.length := by
  unfold outputToken
  split <;> simp

/-- A token leaves no more than what stood after its first character. -/
theorem length_lexeme_le (first : Char) (rest : List Char) : (lexeme first rest).2.length ≤ rest.length := by
  unfold lexeme
  split
  · have := length_dropWhile_le (· != first) rest
    simp only [quotedWord, List.length_drop]
    omega
  · split
    · exact length_outputToken_le ..
    · split
      · exact Nat.le_refl _
      · split
        · exact Nat.le_refl _
        · split
          · exact Nat.le_refl _
          · split
            · have := length_outputToken_le .error .errorAppend ‹List Char›
              simp only [List.length_cons]
              omega
            · exact length_dropWhile_le ..

/-- Every token takes at least one character. -/
theorem length_lt_of_next? {text rest : List Char} {token : Token} (found : next? text = some (token, rest)) :
    rest.length < text.length := by
  unfold next? at found
  have skipped : (trimStart text).length ≤ text.length := length_dropWhile_le ..
  split at found
  · cases found
  · next first behind visible =>
    simp only [Option.some.injEq] at found
    have taken : rest.length ≤ behind.length := by simpa [found] using length_lexeme_le first behind
    rw [visible, List.length_cons] at skipped
    omega

def scan (text : List Char) : List Token :=
  match _found : next? text with
  | none => []
  | some (token, rest) => token :: scan rest
termination_by text.length
decreasing_by exact length_lt_of_next? (by assumption)

/-- All tokens of a line of input, in order. -/
def tokenize (line : String) : List Token := scan line.toList

end PipeShell.Token
