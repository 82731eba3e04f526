import PipeShell.Proofs.Line.Joining

/-! # What a line says about its tokens

A line read off its tokens without a draft. The pipes cut the tokens into segments,
whose words make the stages, except those right behind a redirection. Each end of
the line goes by the last redirection of that end, wherever it stands. -/

set_option autoImplicit false

namespace PipeShell.Line

/-! ## Tokens and their neighbours -/

/-- Each token with the one right before it, the first with `previous`. -/
def withPrevious (previous : Option Token) : List Token → List (Option Token × Token)
  | [] => []
  | token :: rest => (previous, token) :: withPrevious (some token) rest

def withNext : List Token → List (Token × Option Token)
  | [] => []
  | token :: rest => (token, rest.head?) :: withNext rest

def word? : Token → Option String
  | .word text => some text
  | _ => none

/-- A word is an argument unless a redirection stands right before it. -/
def argument? : Option Token × Token → Option String
  | (some (.redirect _), _) => none
  | (_, token) => word? token

def operand? : Option Token × Token → Option String
  | (some (.redirect _), token) => word? token
  | _ => none

/-- A redirection with whatever stands right behind it. -/
def redirection? : Token × Option Token → Option (Operator × Option Token)
  | (.redirect operator, next) => some (operator, next)
  | _ => none

def arguments (tokens : List Token) : List String := (withPrevious none tokens).filterMap argument?

def operands (tokens : List Token) : List String := (withPrevious none tokens).filterMap operand?

def redirections (tokens : List Token) : List (Operator × Option Token) := (withNext tokens).filterMap redirection?

def lastRedirection? (operators : List Operator) (tokens : List Token) : Option (Operator × Option Token) :=
  ((redirections tokens).filter fun redirection => redirection.1 ∈ operators).getLast?

/-- The maximal runs of tokens without a pipe. -/
def segments (tokens : List Token) : List (List Token) := tokens.splitOn .pipe

/-- The stages with the given words; one without words is none. -/
def stagesOf (argvs : List (List String)) : List Stage := (argvs.filter (· ≠ [])).map Stage.mk

/-! ## Reading one token more -/

section Reading

variable (text path : String) (operator : Operator) (rest : List Token)

/-- Only a redirection in front of the tokens changes what their words are. -/
theorem filterMap_withPrevious {kind : Option Token × Token → Option String} {previous : Option Token}
    (same : ∀ token, kind (previous, token) = kind (none, token)) :
    (withPrevious previous rest).filterMap kind = (withPrevious none rest).filterMap kind := by
  cases rest with
  | nil => rfl
  | cons token rest => simp only [withPrevious, List.filterMap_cons, same token]

theorem arguments_word : arguments (.word text :: rest) = text :: arguments rest :=
  congrArg (text :: ·) (filterMap_withPrevious rest fun _ => rfl)

theorem arguments_background : arguments (.background :: rest) = arguments rest :=
  filterMap_withPrevious rest fun _ => rfl

private theorem arguments_pipe : arguments (.pipe :: rest) = arguments rest :=
  filterMap_withPrevious rest fun _ => rfl

theorem arguments_redirect : arguments (.redirect operator :: .word path :: rest) = arguments rest :=
  filterMap_withPrevious rest fun _ => rfl

private theorem operands_word : operands (.word text :: rest) = operands rest :=
  filterMap_withPrevious rest fun _ => rfl

private theorem operands_background : operands (.background :: rest) = operands rest :=
  filterMap_withPrevious rest fun _ => rfl

private theorem operands_pipe : operands (.pipe :: rest) = operands rest :=
  filterMap_withPrevious rest fun _ => rfl

private theorem operands_redirect : operands (.redirect operator :: .word path :: rest) = path :: operands rest :=
  congrArg (path :: ·) (filterMap_withPrevious rest fun _ => rfl)

private theorem redirections_redirect :
    redirections (.redirect operator :: .word path :: rest) = (operator, some (.word path)) :: redirections rest :=
  rfl

private theorem segments_pipe : segments (.pipe :: rest) = [] :: segments rest := by
  simp [segments, List.splitOn_cons_eq_if_modifyHead]

theorem segments_cons {token : Token} (within : token ≠ .pipe) :
    segments (token :: rest) = (segments rest).modifyHead (token :: ·) := by
  simp [segments, List.splitOn_cons_eq_if_modifyHead, within]

private theorem map_arguments_segments_word :
    (segments (.word text :: rest)).map arguments = ((segments rest).map arguments).modifyHead (text :: ·) := by
  rw [segments_cons rest (by simp)]
  cases segments rest with
  | nil => rfl
  | cons first others => simp [arguments_word]

private theorem map_arguments_segments_background :
    (segments (.background :: rest)).map arguments = (segments rest).map arguments := by
  rw [segments_cons rest (by simp)]
  cases segments rest with
  | nil => rfl
  | cons first others => simp [arguments_background]

private theorem map_arguments_segments_redirect :
    (segments (.redirect operator :: .word path :: rest)).map arguments = (segments rest).map arguments := by
  rw [segments_cons _ (by simp), segments_cons _ (by simp)]
  cases segments rest with
  | nil => rfl
  | cons first others => simp [arguments_redirect]

end Reading

/-! ## Drafts against the reading -/

private theorem stagesOf_cons (argv : List String) (argvs : List (List String)) :
    stagesOf (argv :: argvs) = stagesOf [argv] ++ stagesOf argvs := by
  by_cases empty : argv = [] <;> simp [stagesOf, empty]

theorem modifyHead_nil_append (argvs : List (List String)) : argvs.modifyHead ([] ++ ·) = argvs := by
  cases argvs <;> rfl

private theorem stages_close (draft : Draft) :
    draft.close.stages = draft.line.stages ++ stagesOf [draft.arguments.reverse] := by
  unfold Draft.close
  split
  · next empty => simp [stagesOf, List.isEmpty_iff.mp empty]
  · next words =>
      have nonempty : draft.arguments ≠ [] := by simpa using words
      simp [stagesOf, nonempty]

/-- A draft's open segment is the front of the first segment still to come. -/
theorem stages_of_extend {draft : Draft} {tokens : List Token} {line : Line} (built : draft.extend tokens = .ok line) :
    line.stages = draft.line.stages ++
      stagesOf (((segments tokens).map arguments).modifyHead (draft.arguments.reverse ++ ·)) := by
  fun_induction Draft.extend draft tokens with
  | case1 draft =>
      cases built
      simpa [segments, arguments, withPrevious] using stages_close draft
  | case2 draft text rest ih =>
      rw [ih built, map_arguments_segments_word]
      simp [Function.comp_def]
  | case3 draft rest ih =>
      rw [ih built, map_arguments_segments_background]
  | case4 draft rest ih =>
      have opened : draft.arguments.reverse ++ arguments [] = draft.arguments.reverse := List.append_nil _
      have later := congrArg stagesOf (modifyHead_nil_append ((segments rest).map arguments))
      rw [ih built, stages_close, segments_pipe, List.map_cons, List.modifyHead_cons, opened]
      have parts := stagesOf_cons draft.arguments.reverse ((segments rest).map arguments)
      rw [parts, List.append_assoc]
      exact congrArg (fun stages => draft.line.stages ++ (_ ++ stages)) later
  | case5 draft operator path rest ih =>
      rw [ih built, map_arguments_segments_redirect, stages_redirect]
  | case6 => cases built

/-- A part of a line that follows the redirections by some operators: the last of
them stays. -/
theorem redirected_of_extend (part : Line → Option (Operator × Option Token)) (operators : List Operator)
    (redirected : ∀ line operator path, part (line.redirect operator path) =
      if operator ∈ operators then some (operator, some (.word path)) else part line)
    (background : ∀ line : Line, part { line with background := true } = part line)
    (staged : ∀ (line : Line) stages, part { line with stages } = part line)
    {draft : Draft} {tokens : List Token} {line : Line} (built : draft.extend tokens = .ok line) :
    part line = (lastRedirection? operators tokens).or (part draft.line) := by
  have closed (draft : Draft) : part draft.close = part draft.line := by
    obtain ⟨stages, same⟩ := exists_close draft
    rw [same, staged]
  fun_induction Draft.extend draft tokens with
  | case1 draft =>
      cases built
      exact closed draft
  | case2 draft text rest ih => exact ih built
  | case3 draft rest ih => exact (ih built).trans (congrArg _ (background draft.line))
  | case4 draft rest ih => exact (ih built).trans (congrArg _ (closed draft))
  | case5 draft operator path rest ih =>
      rw [ih built, redirected]
      by_cases member : operator ∈ operators
      · simp [lastRedirection?, redirections_redirect, member, List.getLast?_cons]
      · simp [lastRedirection?, redirections_redirect, member]
  | case6 => cases built

private theorem background_of_extend {draft : Draft} {tokens : List Token} {line : Line}
    (built : draft.extend tokens = .ok line) :
    line.background = true ↔ draft.line.background = true ∨ .background ∈ tokens := by
  have closed (draft : Draft) : draft.close.background = draft.line.background := by
    obtain ⟨stages, same⟩ := exists_close draft
    rw [same]
  fun_induction Draft.extend draft tokens with
  | case1 draft =>
      cases built
      simp [closed]
  | case2 draft text rest ih => simp [ih built]
  | case3 draft rest ih => simp [ih built]
  | case4 draft rest ih => simp [ih built, closed]
  | case5 draft operator path rest ih => simp [ih built, background_redirect]
  | case6 => cases built

private theorem words_of_extend {draft : Draft} {tokens : List Token} {line : Line}
    (built : draft.extend tokens = .ok line) :
    line.stages.flatMap (·.argv) =
        draft.line.stages.flatMap (·.argv) ++ (draft.arguments.reverse ++ arguments tokens) ∧
      (redirections tokens).map (·.2) = (operands tokens).map fun path => some (.word path) := by
  have closed (draft : Draft) :
      draft.close.stages.flatMap (·.argv) = draft.line.stages.flatMap (·.argv) ++ draft.arguments.reverse := by
    unfold Draft.close
    split
    · next empty => simp [List.isEmpty_iff.mp empty]
    · simp
  fun_induction Draft.extend draft tokens with
  | case1 draft =>
      cases built
      exact ⟨by rw [closed]; simp [arguments, withPrevious], rfl⟩
  | case2 draft text rest ih =>
      obtain ⟨argued, operated⟩ := ih built
      refine ⟨?_, by rw [operands_word]; exact operated⟩
      rw [argued, arguments_word]
      simp
  | case3 draft rest ih =>
      obtain ⟨argued, operated⟩ := ih built
      exact ⟨by rw [argued, arguments_background], by rw [operands_background]; exact operated⟩
  | case4 draft rest ih =>
      obtain ⟨argued, operated⟩ := ih built
      refine ⟨?_, by rw [operands_pipe]; exact operated⟩
      rw [argued, closed, arguments_pipe]
      simp
  | case5 draft operator path rest ih =>
      obtain ⟨argued, operated⟩ := ih built
      refine ⟨?_, by rw [operands_redirect, redirections_redirect, List.map_cons, List.map_cons, operated]⟩
      rw [argued, arguments_redirect, stages_redirect]
  | case6 => cases built

/-- What stands before a word makes it an argument or an operand, and never both. -/
theorem perm_words (tokens : List Token) : (tokens.filterMap word?).Perm (arguments tokens ++ operands tokens) := by
  have parted (previous : Option Token) : (tokens.filterMap word?).Perm
      ((withPrevious previous tokens).filterMap argument? ++ (withPrevious previous tokens).filterMap operand?) := by
    induction tokens generalizing previous with
    | nil => exact .refl _
    | cons token rest ih =>
        have later := ih (some token)
        have either : argument? (previous, token) = word? token ∧ operand? (previous, token) = none ∨
            argument? (previous, token) = none ∧ operand? (previous, token) = word? token := by
          match previous with
          | some (.redirect _) => exact .inr ⟨rfl, rfl⟩
          | none | some (.word _) | some .pipe | some .background => exact .inl ⟨rfl, rfl⟩
        rw [withPrevious]
        cases worded : word? token with
        | none =>
            have neither : argument? (previous, token) = none ∧ operand? (previous, token) = none := by
              simpa [worded] using either
            rw [List.filterMap_cons_none worded, List.filterMap_cons_none neither.1, List.filterMap_cons_none neither.2]
            exact later
        | some text =>
            rw [List.filterMap_cons_some worded]
            rcases either with ⟨argued, none⟩ | ⟨none, operated⟩
            · rw [List.filterMap_cons_some (argued.trans worded), List.filterMap_cons_none none]
              exact later.cons text
            · rw [List.filterMap_cons_none none, List.filterMap_cons_some (operated.trans worded)]
              exact (later.cons text).trans List.perm_middle.symm
  exact parted none

/-- A line that is built from tokens is what they say: a stage for each segment that
has arguments, in order; each end as the last redirection of that end has it; in the
background if a mark asks for it. No word is lost or used twice: each is an argument
of one stage, or the operand that a redirection takes. -/
theorem reading_of_build (tokens : List Token) (line : Line) (built : build tokens = .ok line) :
    line.stages = (((segments tokens).map arguments).filter (· ≠ [])).map Stage.mk ∧
      lastRedirection? [.input] tokens = (line.input.map fun path => (.input, some (.word path))) ∧
      lastRedirection? [.output, .outputAppend] tokens = (line.output.map fun target =>
        (if target.append then .outputAppend else .output, some (.word target.path))) ∧
      lastRedirection? [.error, .errorAppend] tokens = (line.error.map fun target =>
        (if target.append then .errorAppend else .error, some (.word target.path))) ∧
      (line.background = true ↔ .background ∈ tokens) ∧
      (tokens.filterMap word?).Perm (line.stages.flatMap (·.argv) ++ operands tokens) ∧
      (redirections tokens).map (·.2) = (operands tokens).map fun path => some (.word path) := by
  obtain ⟨argued, operated⟩ := words_of_extend built
  refine ⟨?_, ?_, ?_, ?_, ?_, ?_, operated⟩
  · rw [stages_of_extend built]
    exact congrArg stagesOf (modifyHead_nil_append _)
  · have last := redirected_of_extend (fun line => line.input.map fun path => (.input, some (.word path))) [.input]
      (fun _ operator _ => by cases operator <;> rfl) (fun _ => rfl) (fun _ _ => rfl) built
    simpa [Draft.start, blank] using last.symm
  · have last := redirected_of_extend (fun line => line.output.map fun target =>
        (if target.append then .outputAppend else .output, some (.word target.path))) [.output, .outputAppend]
      (fun _ operator _ => by cases operator <;> rfl) (fun _ => rfl) (fun _ _ => rfl) built
    simpa [Draft.start, blank] using last.symm
  · have last := redirected_of_extend (fun line => line.error.map fun target =>
        (if target.append then .errorAppend else .error, some (.word target.path))) [.error, .errorAppend]
      (fun _ operator _ => by cases operator <;> rfl) (fun _ => rfl) (fun _ _ => rfl) built
    simpa [Draft.start, blank] using last.symm
  · simpa [Draft.start, blank] using background_of_extend built
  · rw [argued]
    exact perm_words tokens

/-- The second output replaces the first, and the segment that has only a mark makes
no stage. -/
theorem reading_of_build_twice :
    let tokens : List Token := [.word "a", .redirect .output, .word "b", .pipe, .background, .pipe, .word "c",
      .redirect .outputAppend, .word "d"]
    let line : Line := ⟨[⟨["a"]⟩, ⟨["c"]⟩], none, some ⟨"d", true⟩, none, true⟩
    build tokens = .ok line ∧ line.stages = [⟨["a"]⟩, ⟨["c"]⟩] ∧
      lastRedirection? [.output, .outputAppend] tokens = some (.outputAppend, some (.word "d")) ∧
      .background ∈ tokens := by
  intro tokens line
  have built : build tokens = .ok line := rfl
  obtain ⟨stages, _, output, _, background, _, _⟩ := reading_of_build tokens line built
  exact ⟨built, stages.trans (by decide), output, background.mp rfl⟩

end PipeShell.Line
