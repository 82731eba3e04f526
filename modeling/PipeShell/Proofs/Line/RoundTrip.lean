import Mathlib
import PipeShell.Line.Printer
import PipeShell.Proofs.Line.Joining
import PipeShell.Proofs.Token.Scanning

/-! # Writing a line and reading it back

The tokens of a line are its stages with pipes between them, its redirections and its
background mark. The text of a line splits into exactly these tokens if all of its
words can be written, and has no blanks at its ends if each of its stages has a
word. So parsing the text gives the line back exactly when it is writable, and parsing
gives only writable lines: a second round through text changes nothing. -/

set_option autoImplicit false

namespace PipeShell.Line

open Token

def paths (line : Line) : List String :=
  line.input.toList ++ (line.output.map (·.path)).toList ++ (line.error.map (·.path)).toList

/-- The lines that can be written: they have something to run, each stage has a
program, and no word holds both kinds of quote. -/
structure Writable (line : Line) : Prop where
  staged : line.stages ≠ []
  worded : ∀ stage ∈ line.stages, stage.argv ≠ []
  argumentsQuotable : ∀ stage ∈ line.stages, ∀ word ∈ stage.argv, Quotable word
  pathsQuotable : ∀ path ∈ line.paths, Quotable path

/-! ## The tokens of a line -/

def stageTokens (stage : Stage) : List Token := stage.argv.map .word

def pipelineTokens : List Stage → List Token
  | [] => []
  | [stage] => stageTokens stage
  | stage :: rest => stageTokens stage ++ .pipe :: pipelineTokens rest

def redirectTokens : Option (Operator × String) → List Token
  | none => []
  | some (operator, path) => [.redirect operator, .word path]

def tokens (line : Line) : List Token :=
  pipelineTokens line.stages ++ (redirectTokens (line.input.map ((.input, ·))) ++
    (redirectTokens (line.output.map (OutputTarget.redirection .output .outputAppend)) ++
      (redirectTokens (line.error.map (OutputTarget.redirection .error .errorAppend)) ++
        if line.background then [.background] else [])))

/-! ## Scanning the parts -/

theorem parted_cons_space (rest : List Char) : Parted (' ' :: rest) := parted_cons_blank rest (by decide)

theorem scan_cons_space (rest : List Char) : scan (' ' :: rest) = scan rest := scan_cons_blank rest (by decide)

theorem scan_renderWord {word : String} (quotable : Quotable word) {rest : List Char} (parted : Parted rest) :
    scan (renderWord word ++ rest) = .word word :: scan rest := by
  unfold renderWord
  by_cases bare : needsQuoting word.toList
  · rw [if_neg (by simp [bare])]
    -- The quotes are of the kind that the word does not hold.
    by_cases double : '"' ∈ word.toList
    · have absent : '\'' ∉ word.toList := fun single => quotable ⟨double, single⟩
      rw [if_pos (by simpa using double)]
      simpa using scan_quotedWord '\'' rfl absent rest
    · rw [if_neg (by simpa using double)]
      simpa using scan_quotedWord '"' rfl double rest
  · rw [if_pos (by simp [bare])]
    simp only [needsQuoting, Bool.or_eq_true, List.isEmpty_iff, List.any_eq_true, not_or, not_exists,
      not_and, Bool.not_eq_true] at bare
    simpa using scan_bareWord bare.1 bare.2 parted

theorem joinWith_cons_cons (separator first second : List Char) (rest : List (List Char)) :
    joinWith separator (first :: second :: rest) = first ++ separator ++ joinWith separator (second :: rest) := by
  simp [joinWith]

private theorem scan_renderStage {stage : Stage} (quotable : ∀ word ∈ stage.argv, Quotable word) {rest : List Char}
    (parted : Parted rest) : scan (renderStage stage ++ rest) = stageTokens stage ++ scan rest := by
  obtain ⟨argv⟩ := stage
  simp only [renderStage, stageTokens] at quotable ⊢
  induction argv with
  | nil => rfl
  | cons word words ih =>
      cases words with
      | nil => simpa [joinWith] using scan_renderWord (quotable word (by simp)) parted
      | cons next words =>
          have later := ih fun other member => quotable other (List.mem_cons_of_mem word member)
          simp only [List.map_cons, joinWith_cons_cons, List.append_assoc] at later ⊢
          rw [List.singleton_append, scan_renderWord (quotable word (by simp)) (parted_cons_space _),
            scan_cons_space, later]
          rfl

private theorem scan_renderStages {stages : List Stage}
    (quotable : ∀ stage ∈ stages, ∀ word ∈ stage.argv, Quotable word) {rest : List Char} (parted : Parted rest) :
    scan (joinWith [' ', '|', ' '] (stages.map renderStage) ++ rest) = pipelineTokens stages ++ scan rest := by
  induction stages with
  | nil => rfl
  | cons stage stages ih =>
      have first := quotable stage List.mem_cons_self
      cases stages with
      | nil => simpa [joinWith, pipelineTokens] using scan_renderStage first parted
      | cons next stages =>
          have later := ih fun other member => quotable other (List.mem_cons_of_mem stage member)
          simp only [List.map_cons, joinWith_cons_cons, List.append_assoc, pipelineTokens] at later ⊢
          rw [List.cons_append, scan_renderStage first (parted_cons_space _), scan_cons_space, List.cons_append,
            scan_pipe, List.cons_append, List.nil_append, scan_cons_space, later, List.cons_append]

private theorem scan_renderRedirect {target : Option (Operator × String)}
    (quotable : ∀ operator path, target = some (operator, path) → Quotable path)
    {rest : List Char} (parted : Parted rest) :
    scan (renderRedirect target ++ rest) = redirectTokens target ++ scan rest := by
  match target with
  | none => rfl
  | some (operator, path) =>
      simp only [renderRedirect, redirectTokens, List.cons_append, List.append_assoc, List.nil_append]
      rw [scan_cons_space, scan_operator operator (parted_cons_space _), scan_cons_space,
        scan_renderWord (quotable operator path rfl) parted]

/-- What stands behind a redirection begins with a space, or it is nothing. -/
theorem parted_renderRedirect (target : Option (Operator × String)) {rest : List Char} (parted : Parted rest) :
    Parted (renderRedirect target ++ rest) := by
  match target with
  | none => exact parted
  | some (operator, path) => exact parted_cons_space _

private theorem quotable_of_redirection (target : Option OutputTarget) (truncating appending : Operator)
    (quotable : ∀ path ∈ (target.map (·.path)).toList, Quotable path) (operator : Operator) (path : String)
    (redirected : target.map (OutputTarget.redirection truncating appending) = some (operator, path)) :
    Quotable path := by
  obtain ⟨written, rfl, same⟩ := Option.map_eq_some_iff.mp redirected
  obtain ⟨_, rfl⟩ := Prod.mk.inj same
  exact quotable written.path (by simp)

/-- The text of a line splits into the tokens of the line. -/
theorem scan_render {line : Line} (argumentsQuotable : ∀ stage ∈ line.stages, ∀ word ∈ stage.argv, Quotable word)
    (pathsQuotable : ∀ path ∈ line.paths, Quotable path) : scan line.render = line.tokens := by
  have mark : scan (if line.background then [' ', '&'] else []) = if line.background then [.background] else [] := by
    split
    · rw [scan_cons_space, scan_background, scan_nil]
    · exact scan_nil
  have markParted : Parted (if line.background then [' ', '&'] else []) := by
    split
    · exact parted_cons_space _
    · exact parted_nil
  have inputQuotable : ∀ operator path,
      line.input.map ((Operator.input, ·)) = some (operator, path) → Quotable path := by
    intro operator path redirected
    obtain ⟨written, found, same⟩ := Option.map_eq_some_iff.mp redirected
    obtain ⟨_, rfl⟩ := Prod.mk.inj same
    exact pathsQuotable written (by simp [paths, found])
  have outputQuotable := quotable_of_redirection line.output .output .outputAppend
    fun path member => pathsQuotable path (List.mem_append_left _ (List.mem_append_right _ member))
  have errorQuotable := quotable_of_redirection line.error .error .errorAppend
    fun path member => pathsQuotable path (List.mem_append_right _ member)
  have errorParted := parted_renderRedirect
    (line.error.map (OutputTarget.redirection .error .errorAppend)) markParted
  have outputParted := parted_renderRedirect
    (line.output.map (OutputTarget.redirection .output .outputAppend)) errorParted
  have inputParted := parted_renderRedirect (line.input.map ((.input, ·))) outputParted
  simp only [render, List.append_assoc]
  rw [scan_renderStages argumentsQuotable inputParted, scan_renderRedirect inputQuotable outputParted,
    scan_renderRedirect outputQuotable errorParted, scan_renderRedirect errorQuotable markParted, mark, tokens]

/-! ## The ends of the text -/

/-- A text that neither begins nor ends with a blank, and is not empty. -/
structure Framed (text : List Char) : Prop where
  first : ∃ c rest, text = c :: rest ∧ Text.isBlank c = false
  last : ∃ front c, text = front ++ [c] ∧ Text.isBlank c = false

/-- A text that may follow another one without adding a blank at its end. -/
def Closed (text : List Char) : Prop := ∀ c, text.getLast? = some c → Text.isBlank c = false

theorem Framed.append {text rest : List Char} (framed : Framed text) (closed : Closed rest) :
    Framed (text ++ rest) := by
  obtain ⟨⟨c, behind, rfl, visible⟩, last⟩ := framed
  refine ⟨⟨c, behind ++ rest, rfl, visible⟩, ?_⟩
  rcases List.eq_nil_or_concat rest with rfl | ⟨front, final, rfl⟩
  · simpa using last
  · refine ⟨c :: behind ++ front, final, by simp, closed final (by simp)⟩

private theorem Framed.trim_eq {text : List Char} (framed : Framed text) : Text.trim text = text := by
  obtain ⟨⟨c, behind, equal, visible⟩, front, final, equal', visible'⟩ := framed
  have start : Text.trimStart text = text := by simp [equal, Text.trimStart, visible]
  rw [Text.trim, start, equal']
  simp [Text.trimEnd, visible']

theorem framed_renderWord (word : String) : Framed (renderWord word) := by
  unfold renderWord
  by_cases bare : needsQuoting word.toList
  · rw [if_neg (by simp [bare])]
    by_cases double : '"' ∈ word.toList
    · rw [if_pos (by simpa using double)]
      exact ⟨⟨'\'', _, rfl, by decide⟩, ⟨'\'' :: word.toList, '\'', rfl, by decide⟩⟩
    · rw [if_neg (by simpa using double)]
      exact ⟨⟨'"', _, rfl, by decide⟩, ⟨'"' :: word.toList, '"', rfl, by decide⟩⟩
  · rw [if_pos (by simp [bare])]
    simp only [needsQuoting, Bool.or_eq_true, List.isEmpty_iff, List.any_eq_true, not_or, not_exists,
      not_and, Bool.not_eq_true] at bare
    obtain ⟨nonempty, unbroken⟩ := bare
    have visible : ∀ c ∈ word.toList, Text.isBlank c = false := by
      intro c member
      have unbrokenHere := unbroken c member
      simp only [isWordBreak, Bool.or_eq_false_iff] at unbrokenHere
      exact unbrokenHere.1.1
    obtain ⟨c, rest, equal⟩ := List.exists_cons_of_ne_nil nonempty
    refine ⟨⟨c, rest, equal, visible c (by simp [equal])⟩, ?_⟩
    exact ⟨word.toList.dropLast, word.toList.getLast nonempty,
      (List.dropLast_concat_getLast nonempty).symm, visible _ (List.getLast_mem nonempty)⟩

/-- Joining keeps the ends of the parts, whatever stands between them. -/
theorem framed_joinWith (separator : List Char) {parts : List (List Char)} (nonempty : parts ≠ [])
    (framed : ∀ part ∈ parts, Framed part) : Framed (joinWith separator parts) := by
  induction parts with
  | nil => exact absurd rfl nonempty
  | cons part parts ih =>
      have here := framed part List.mem_cons_self
      cases parts with
      | nil => simpa [joinWith] using here
      | cons next parts =>
          have later := ih (by simp) fun other member => framed other (List.mem_cons_of_mem part member)
          obtain ⟨front, final, equal, visible⟩ := later.last
          rw [joinWith_cons_cons, List.append_assoc]
          refine here.append fun c found => ?_
          have same : final = c := by simpa [equal] using found
          exact same ▸ visible

private theorem framed_renderStage {stage : Stage} (worded : stage.argv ≠ []) : Framed (renderStage stage) := by
  refine framed_joinWith [' '] (by simpa using worded) fun part member => ?_
  obtain ⟨word, _, rfl⟩ := List.mem_map.mp member
  exact framed_renderWord word

private theorem closed_renderRedirect (target : Option (Operator × String)) : Closed (renderRedirect target) := by
  match target with
  | none => simp [renderRedirect, Closed]
  | some (operator, path) =>
      intro c found
      obtain ⟨front, final, equal, visible⟩ := (framed_renderWord path).last
      have shape : renderRedirect (some (operator, path)) =
          (' ' :: operator.symbol.toList ++ ' ' :: front) ++ [final] := by simp [renderRedirect, equal]
      rw [shape, List.getLast?_concat] at found
      exact Option.some.inj found ▸ visible

private theorem framed_render {line : Line} (staged : line.stages ≠ [])
    (worded : ∀ stage ∈ line.stages, stage.argv ≠ []) : Framed line.render := by
  have stages : Framed (joinWith [' ', '|', ' '] (line.stages.map renderStage)) := by
    refine framed_joinWith _ (by simpa using staged) fun part member => ?_
    obtain ⟨stage, stageMember, rfl⟩ := List.mem_map.mp member
    exact framed_renderStage (worded stage stageMember)
  have mark : Closed (if line.background then [' ', '&'] else []) := by
    cases line.background with
    | false => simp [Closed]
    | true =>
        intro c found
        cases found
        decide
  exact (((stages.append (closed_renderRedirect _)).append (closed_renderRedirect _)).append
    (closed_renderRedirect _)).append mark

/-! ## Building a line from its own tokens -/

private theorem extend_stageTokens (draft : Draft) (stage : Stage) (rest : List Token) :
    draft.extend (stageTokens stage ++ rest) =
      Draft.extend ⟨draft.line, stage.argv.reverse ++ draft.arguments⟩ rest := by
  obtain ⟨argv⟩ := stage
  simp only [stageTokens]
  induction argv generalizing draft with
  | nil => rfl
  | cons word words ih =>
      simp only [List.map_cons, List.cons_append, Draft.extend, ih]
      simp

/-- Stages pile up in front of the last one, whose arguments stay open. -/
theorem extend_pipelineTokens (before : Line) (stages : List Stage) (last : Stage) (rest : List Token)
    (worded : ∀ stage ∈ stages, stage.argv ≠ []) :
    Draft.extend ⟨before, []⟩ (pipelineTokens (stages ++ [last]) ++ rest) =
      Draft.extend ⟨{ before with stages := before.stages ++ stages }, last.argv.reverse⟩ rest := by
  induction stages generalizing before with
  | nil => simp [pipelineTokens, extend_stageTokens]
  | cons stage stages ih =>
      have shape : pipelineTokens (stage :: (stages ++ [last])) =
          stageTokens stage ++ .pipe :: pipelineTokens (stages ++ [last]) := by
        cases stages <;> rfl
      have closed : Draft.close ⟨before, stage.argv.reverse ++ []⟩ =
          { before with stages := before.stages ++ [stage] } := by
        simp [Draft.close, worded stage List.mem_cons_self]
      rw [List.cons_append, shape, List.append_assoc, extend_stageTokens, List.cons_append, Draft.extend, closed,
        ih _ fun other member => worded other (List.mem_cons_of_mem stage member)]
      simp

private theorem extend_redirectTokens (draft : Draft) (target : Option (Operator × String)) (rest : List Token) :
    draft.extend (redirectTokens target ++ rest) =
      Draft.extend { draft with
        line := target.elim draft.line fun (operator, path) => draft.line.redirect operator path } rest := by
  match target with
  | none => rfl
  | some (operator, path) => simp [redirectTokens, Draft.extend]

theorem redirect_input (line : Line) (path : String) : line.redirect .input path = { line with input := some path } :=
  rfl

private theorem redirect_output (line : Line) (target : OutputTarget) :
    line.redirect (OutputTarget.redirection .output .outputAppend target).1
        (OutputTarget.redirection .output .outputAppend target).2 =
      { line with output := some target } := by
  obtain ⟨path, append⟩ := target
  cases append <;> rfl

private theorem redirect_error (line : Line) (target : OutputTarget) :
    line.redirect (OutputTarget.redirection .error .errorAppend target).1
        (OutputTarget.redirection .error .errorAppend target).2 =
      { line with error := some target } := by
  obtain ⟨path, append⟩ := target
  cases append <;> rfl

private theorem extend_redirections (stages : List Stage) (arguments : List String) (input : Option String)
    (output error : Option OutputTarget) (rest : List Token) :
    Draft.extend ⟨{ stages }, arguments⟩ (redirectTokens (input.map ((.input, ·))) ++
        (redirectTokens (output.map (OutputTarget.redirection .output .outputAppend)) ++
          (redirectTokens (error.map (OutputTarget.redirection .error .errorAppend)) ++ rest))) =
      Draft.extend ⟨{ stages, input, output, error }, arguments⟩ rest := by
  rw [extend_redirectTokens, extend_redirectTokens, extend_redirectTokens]
  cases input <;> cases output <;> cases error <;> simp [redirect_input, redirect_output, redirect_error]

theorem build_tokens {line : Line} (staged : line.stages ≠ []) (worded : ∀ stage ∈ line.stages, stage.argv ≠ []) :
    build line.tokens = .ok line := by
  obtain ⟨stages, input, output, error, background⟩ := line
  obtain ⟨front, last, rfl⟩ : ∃ front last, stages = front ++ [last] :=
    ⟨stages.dropLast, stages.getLast staged, (List.dropLast_concat_getLast staged).symm⟩
  have frontWorded : ∀ stage ∈ front, stage.argv ≠ [] := fun stage member =>
    worded stage (List.mem_append_left _ member)
  have lastWorded : last.argv ≠ [] := worded last (by simp)
  have start : (⟨.blank, []⟩ : Draft) = ⟨{}, []⟩ := rfl
  rw [build, tokens, Draft.start, extend_pipelineTokens _ _ _ _ frontWorded, blank, extend_redirections]
  cases background <;> simp [Draft.extend, Draft.close, lastWorded]

/-! ## What parsing can give -/

/-- What the part of a line that was read so far has in common with writable
lines. -/
structure Draft.Writable (draft : Draft) : Prop where
  worded : ∀ stage ∈ draft.line.stages, stage.argv ≠ []
  argumentsQuotable : ∀ stage ∈ draft.line.stages, ∀ word ∈ stage.argv, Quotable word
  pathsQuotable : ∀ path ∈ draft.line.paths, Quotable path
  openQuotable : ∀ word ∈ draft.arguments, Quotable word

private theorem Draft.Writable.start : Draft.start.Writable := by
  constructor <;> simp [Draft.start, blank, paths]

private theorem Draft.Writable.close {draft : Draft} (writable : draft.Writable) :
    Draft.Writable ⟨draft.close, []⟩ := by
  unfold Draft.close
  split
  · exact { writable with openQuotable := by simp }
  · next nonempty =>
      refine ⟨?_, ?_, writable.pathsQuotable, by simp⟩
      · intro stage member
        rcases List.mem_append.mp member with before | last
        · exact writable.worded stage before
        · cases List.mem_singleton.mp last
          simpa using nonempty
      · intro stage member word wordMember
        rcases List.mem_append.mp member with before | last
        · exact writable.argumentsQuotable stage before word wordMember
        · cases List.mem_singleton.mp last
          exact writable.openQuotable word (by simpa using wordMember)

private theorem paths_redirect (line : Line) (operator : Operator) (path : String) :
    ∀ other ∈ (line.redirect operator path).paths, other = path ∨ other ∈ line.paths := by
  intro other member
  cases operator <;> simp [redirect, paths] at member ⊢ <;> grind

private theorem Draft.Writable.redirect {draft : Draft} (writable : draft.Writable) (operator : Operator)
    {path : String} (quotable : Quotable path) :
    Draft.Writable { draft with line := draft.line.redirect operator path } := by
  have stages := stages_redirect draft.line operator path
  refine ⟨?_, ?_, ?_, writable.openQuotable⟩
  · simpa only [stages] using writable.worded
  · simpa only [stages] using writable.argumentsQuotable
  · intro other member
    rcases paths_redirect draft.line operator path other member with rfl | before
    · exact quotable
    · exact writable.pathsQuotable other before

/-- Reading on keeps everything written so far writable. -/
theorem Draft.Writable.extend {draft : Draft} (writable : draft.Writable) {tokens : List Token}
    (quotable : ∀ word, .word word ∈ tokens → Quotable word) {line : Line}
    (read : draft.extend tokens = .ok line) : Draft.Writable ⟨line, []⟩ := by
  fun_induction Draft.extend draft tokens with
  | case1 draft =>
      cases read
      exact writable.close
  | case2 draft text rest ih =>
      refine ih ?_ (fun word member => quotable word (List.mem_cons_of_mem _ member)) read
      refine { writable with openQuotable := fun word member => ?_ }
      rcases List.mem_cons.mp member with rfl | before
      · exact quotable word List.mem_cons_self
      · exact writable.openQuotable word before
  | case3 draft rest ih =>
      exact ih { writable with } (fun word member => quotable word (List.mem_cons_of_mem _ member)) read
  | case4 draft rest ih =>
      exact ih writable.close (fun word member => quotable word (List.mem_cons_of_mem _ member)) read
  | case5 draft operator path rest ih =>
      refine ih (writable.redirect operator (quotable path (by simp))) (fun word member => ?_) read
      exact quotable word (List.mem_cons_of_mem _ (List.mem_cons_of_mem _ member))
  | case6 => cases read

/-- Every line that an input parses to can be written. -/
theorem writable_of_parse {input : String} {line : Line} (parsed : parse input = .ok (some line)) :
    line.Writable := by
  unfold parse at parsed
  split at parsed
  · cases parsed
  · next read built =>
      simp only [Except.ok.injEq, Option.ite_none_left_eq_some, Option.some.injEq] at parsed
      obtain ⟨nonempty, rfl⟩ := parsed
      have writable := Draft.Writable.start.extend (fun word member => quotable_of_mem_scan member) built
      exact ⟨by simpa [isEmpty] using nonempty, writable.worded, writable.argumentsQuotable, writable.pathsQuotable⟩

private theorem Writable.parse_text {line : Line} (writable : line.Writable) : parse line.text = .ok (some line) := by
  have framed := framed_render writable.staged writable.worded
  have built : ofInput line.text = .ok line := by
    rw [ofInput, text, String.toList_ofList, framed.trim_eq,
      scan_render writable.argumentsQuotable writable.pathsQuotable]
    exact build_tokens writable.staged writable.worded
  rw [parse, built]
  simp [isEmpty, writable.staged]

/-- A line comes back from its own text exactly when it is writable, and every line
that comes from any text is. -/
theorem parse_text_eq_iff :
    (∀ line : Line, parse line.text = .ok (some line) ↔ line.Writable) ∧
      ∀ (input : String) (line : Line), parse input = .ok (some line) →
        line.Writable ∧ parse line.text = .ok (some line) := by
  refine ⟨fun line => ⟨writable_of_parse, fun writable => writable.parse_text⟩, fun input line parsed => ?_⟩
  have writable := writable_of_parse parsed
  exact ⟨writable, writable.parse_text⟩

/-- Quotes of both kinds, words that look like operators, an empty word and spaces at
the ends. -/
theorem parse_text_of_quoted :
    let input := " echo 'a | b' 'say \"hi\"' ''|2 \"it's\" 2>>'my errors.log'&\t"
    let line : Line := {
      stages := [⟨["echo", "a | b", "say \"hi\"", ""]⟩, ⟨["2", "it's"]⟩]
      error := some ⟨"my errors.log", true⟩
      background := true }
    parse input = .ok (some line) ∧ line.Writable ∧ parse line.text = .ok (some line) := by
  intro input line
  have parsed : parse input = .ok (some line) := by cbv
  exact ⟨parsed, parse_text_eq_iff.2 input line parsed⟩

end PipeShell.Line
