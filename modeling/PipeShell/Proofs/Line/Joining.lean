import Mathlib
import PipeShell.Line.Build
import PipeShell.Proofs.Token.Grammar

/-! # Lines joined by a pipe

A draft at a pipe is a finished line, and going on from it adds a second line to the
first: more stages, redirections that count before the earlier ones, and a second
chance to ask for the background. So a line with a pipe in it is two lines joined,
and it fails where the first of them fails. -/

set_option autoImplicit false

namespace PipeShell.Line

open Token

theorem stages_redirect (line : Line) (operator : Operator) (path : String) :
    (line.redirect operator path).stages = line.stages := by
  cases operator <;> rfl

theorem background_redirect (line : Line) (operator : Operator) (path : String) :
    (line.redirect operator path).background = line.background := by
  cases operator <;> rfl

/-- A segment that closes changes nothing but the stages. -/
theorem exists_close (draft : Draft) : ∃ stages, draft.close = { draft.line with stages } := by
  unfold Draft.close
  split
  · exact ⟨_, rfl⟩
  · exact ⟨_, rfl⟩

/-- The line that pipes one line into another. Each end has one file, and the back
line has the last word on it. -/
def piped (front back : Line) : Line where
  stages := front.stages ++ back.stages
  input := back.input.or front.input
  output := back.output.or front.output
  error := back.error.or front.error
  background := front.background || back.background

private theorem piped_blank (front : Line) : front.piped .blank = front := by
  simp [piped, blank]

private theorem piped_redirect (front back : Line) (operator : Operator) (path : String) :
    front.piped (back.redirect operator path) = (front.piped back).redirect operator path := by
  cases operator <;> rfl

private theorem piped_background (front back : Line) :
    front.piped { back with background := true } = { front.piped back with background := true } := by
  simp [piped]

private theorem close_piped (front : Line) (draft : Draft) :
    Draft.close ⟨front.piped draft.line, draft.arguments⟩ = front.piped draft.close := by
  unfold Draft.close
  split
  · rfl
  · simp [piped]

/-- What stands in front of a draft's line does not change how the draft goes on. -/
theorem extend_piped (front : Line) (draft : Draft) (tokens : List Token) :
    Draft.extend ⟨front.piped draft.line, draft.arguments⟩ tokens = do
      let second ← draft.extend tokens
      return front.piped second := by
  fun_induction Draft.extend draft tokens with
  | case1 draft => exact congrArg Except.ok (close_piped front draft)
  | case2 draft text rest ih => exact ih
  | case3 draft rest ih => rw [← ih, Draft.extend, piped_background]
  | case4 draft rest ih => rw [← ih, Draft.extend, close_piped]
  | case5 draft operator path rest ih => rw [← ih, Draft.extend, piped_redirect]
  | case6 draft operator rest missing =>
      rw [Draft.extend]
      · rfl
      · exact missing

/-- A pipe closes the draft, and a new one starts behind it. -/
theorem extend_append_pipe (draft : Draft) (front back : List Token) :
    draft.extend (front ++ .pipe :: back) = draft.extend front >>= fun first => Draft.extend ⟨first, []⟩ back := by
  fun_induction Draft.extend draft front with
  | case1 draft => rfl
  | case2 draft text rest ih => exact ih
  | case3 draft rest ih => exact ih
  | case4 draft rest ih => exact ih
  | case5 draft operator path rest ih => exact ih
  | case6 draft operator rest missing =>
      -- The pipe is no operand, so an operator at the end of the front still lacks one.
      rw [List.cons_append, Draft.extend]
      · rfl
      · rintro path others equal
        cases rest with
        | nil => cases equal
        | cons token more =>
            obtain ⟨rfl, _⟩ := List.cons.inj equal
            exact missing path more rfl

private theorem build_append_pipe (front back : List Token) :
    build (front ++ .pipe :: back) = do
      let first ← build front
      let second ← build back
      return first.piped second := by
  have joined (first : Line) : Draft.extend ⟨first, []⟩ back = do
      let second ← build back
      return first.piped second := by
    rw [build, ← extend_piped, Draft.start, piped_blank]
  simp only [build, extend_append_pipe, joined]

private theorem tokenize_append_pipe (front back : String) (unquoted : EndsUnquoted front.toList) :
    tokenize (front ++ "|" ++ back) = tokenize front ++ .pipe :: tokenize back := by
  have parted : Parted ('|' :: back.toList) := by
    rintro c first
    cases first
    decide
  have written : (front ++ "|" ++ back).toList = front.toList ++ '|' :: back.toList := by
    simp [String.toList_append]
  rw [tokenize, written, scan_append unquoted parted, scan_pipe]
  rfl

/-- Parsing goes through pipes: unless the front ends inside a quote, a text piped
into another is the two lines piped, or the error of the first that fails. -/
theorem build_tokenize_pipe (front back : String) (unquoted : EndsUnquoted front.toList) :
    build (tokenize (front ++ "|" ++ back)) =
      match build (tokenize front), build (tokenize back) with
      | .error missing, _ => .error missing
      | .ok _, .error missing => .error missing
      | .ok first, .ok second => .ok
          { stages := first.stages ++ second.stages
            input := second.input.or first.input
            output := second.output.or first.output
            error := second.error.or first.error
            background := first.background || second.background } := by
  rw [tokenize_append_pipe front back unquoted, build_append_pipe]
  cases build (tokenize front) with
  | error => rfl
  | ok => cases build (tokenize back) <;> rfl

/-- A front whose last quote is closed, and a back that begins with an operator. -/
theorem build_tokenize_pipe_quoted :
    EndsUnquoted "grep 'a|b' 2> log".toList ∧
      build (tokenize ("grep 'a|b' 2> log" ++ "|" ++ ">> out & sort")) = .ok
        { stages := [⟨["grep", "a|b"]⟩, ⟨["sort"]⟩]
          output := some ⟨"out", true⟩
          error := some ⟨"log", false⟩
          background := true } := by
  have unquoted : EndsUnquoted "grep 'a|b' 2> log".toList := by decide
  refine ⟨unquoted, ?_⟩
  rw [build_tokenize_pipe _ _ unquoted]
  cbv

end PipeShell.Line
