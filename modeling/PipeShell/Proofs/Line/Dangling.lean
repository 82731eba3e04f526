import PipeShell.Proofs.Line.Joining

/-! # Redirections without a file

A redirection dangles if no word stands right behind it. Building a line stops at the
first one that does, wherever the pipes are, and at nothing else. -/

set_option autoImplicit false

namespace PipeShell.Line

/-- A redirection stands at the index, and no word right behind it. -/
def DanglesAt (tokens : List Token) (i : Nat) (operator : Operator) : Prop :=
  tokens[i]? = some (.redirect operator) ∧ ∀ path, tokens[i + 1]? ≠ some (.word path)

/-- The operator of the leftmost redirection that dangles. -/
def FirstDangling (tokens : List Token) (operator : Operator) : Prop :=
  ∃ i, DanglesAt tokens i operator ∧ ∀ j < i, ∀ other, ¬DanglesAt tokens j other

section Dangling

variable {token : Token} {rest : List Token} {operator : Operator}

theorem danglesAt_zero : DanglesAt (token :: rest) 0 operator ↔
    token = .redirect operator ∧ ∀ path, rest.head? ≠ some (.word path) := by
  simp [DanglesAt, List.head?_eq_getElem?]

private theorem danglesAt_succ {i : Nat} : DanglesAt (token :: rest) (i + 1) operator ↔ DanglesAt rest i operator := by
  simp [DanglesAt]

/-- What has all it needs can be left out of the search. -/
theorem firstDangling_cons (settled : ∀ other, ¬DanglesAt (token :: rest) 0 other) :
    FirstDangling (token :: rest) operator ↔ FirstDangling rest operator := by
  constructor
  · rintro ⟨i, dangles, least⟩
    cases i with
    | zero => exact absurd dangles (settled operator)
    | succ i =>
        refine ⟨i, danglesAt_succ.mp dangles, ?_⟩
        intro j below other earlier
        exact least (j + 1) (Nat.succ_lt_succ below) other (danglesAt_succ.mpr earlier)
  · rintro ⟨i, dangles, least⟩
    refine ⟨i + 1, danglesAt_succ.mpr dangles, ?_⟩
    intro j below other earlier
    cases j with
    | zero => exact settled other earlier
    | succ j => exact least j (Nat.lt_of_succ_lt_succ below) other (danglesAt_succ.mp earlier)

private theorem firstDangling_redirect {other : Operator} (missing : ∀ path, rest.head? ≠ some (.word path)) :
    FirstDangling (.redirect other :: rest) operator ↔ other = operator := by
  have dangles : DanglesAt (.redirect other :: rest) 0 other := danglesAt_zero.mpr ⟨rfl, missing⟩
  constructor
  · rintro ⟨i, found, least⟩
    cases i with
    | zero => exact Token.redirect.inj (danglesAt_zero.mp found).1
    | succ i => exact absurd dangles (least 0 (Nat.succ_pos i) other)
  · rintro rfl
    exact ⟨0, dangles, fun j below => absurd below (Nat.not_lt_zero j)⟩

/-- If any redirection dangles, one of them is the leftmost. -/
theorem exists_firstDangling {tokens : List Token} {i : Nat} (dangles : DanglesAt tokens i operator) :
    ∃ first, FirstDangling tokens first := by
  induction i using Nat.strongRecOn generalizing operator with
  | ind i ih =>
      by_cases earlier : ∃ j < i, ∃ other, DanglesAt tokens j other
      · obtain ⟨j, below, other, found⟩ := earlier
        exact ih j below found
      · refine ⟨operator, i, dangles, ?_⟩
        intro j below other found
        exact earlier ⟨j, below, other, found⟩

end Dangling

/-- A draft goes on past every redirection that has its file, and past everything else. -/
theorem extend_eq_error_iff (draft : Draft) (tokens : List Token) (operator : Operator) :
    draft.extend tokens = .error (.missingOperand operator) ↔ FirstDangling tokens operator := by
  have other {token : Token} {rest : List Token} (plain : ∀ operator, token ≠ .redirect operator) :
      ∀ operator, ¬DanglesAt (token :: rest) 0 operator := by
    intro operator dangles
    exact plain operator (danglesAt_zero.mp dangles).1
  fun_induction Draft.extend draft tokens with
  | case1 draft =>
      constructor
      · intro failed
        cases failed
      · rintro ⟨i, ⟨found, _⟩, _⟩
        cases found
  | case2 draft text rest ih => exact ih.trans (firstDangling_cons (other (by simp))).symm
  | case3 draft rest ih => exact ih.trans (firstDangling_cons (other (by simp))).symm
  | case4 draft rest ih => exact ih.trans (firstDangling_cons (other (by simp))).symm
  | case5 draft operator path rest ih =>
      have filed : ∀ operator', ¬DanglesAt (.redirect operator :: .word path :: rest) 0 operator' := by
        intro operator' dangles
        exact (danglesAt_zero.mp dangles).2 path rfl
      -- The file itself is a word, so the search goes on behind it.
      exact ih.trans ((firstDangling_cons filed).trans (firstDangling_cons (other (by simp)))).symm
  | case6 draft operator' rest missing =>
      have unfiled : ∀ path, rest.head? ≠ some (.word path) := by
        intro path first
        obtain ⟨behind, rfl⟩ := List.head?_eq_some_iff.mp first
        exact missing path behind rfl
      rw [firstDangling_redirect unfiled]
      simp

/-- A line is built unless some redirection is not followed by a word at once; the error
then names the leftmost one. -/
theorem build_error_iff (tokens : List Token) :
    (∀ operator, build tokens = .error (.missingOperand operator) ↔
      ∃ i, DanglesAt tokens i operator ∧ ∀ j < i, ∀ other, ¬DanglesAt tokens j other) ∧
    ((∃ line, build tokens = .ok line) ↔ ∀ i operator, ¬DanglesAt tokens i operator) := by
  refine ⟨fun operator => extend_eq_error_iff .start tokens operator, ?_, ?_⟩
  · rintro ⟨line, built⟩ i operator dangles
    obtain ⟨first, dangling⟩ := exists_firstDangling dangles
    have failed : build tokens = .error (.missingOperand first) :=
      (extend_eq_error_iff .start tokens first).mpr dangling
    rw [failed] at built
    cases built
  · intro settled
    cases outcome : build tokens with
    | ok line => exact ⟨line, rfl⟩
    | error missing =>
        cases missing with
        | missingOperand operator =>
            obtain ⟨i, dangles, _⟩ := (extend_eq_error_iff .start tokens operator).mp outcome
            exact absurd dangles (settled i operator)

/-- The first redirection has its file, and the pipe is none for the second. -/
example : build [.word "a", .redirect .input, .word "f", .redirect .errorAppend, .pipe, .redirect .output] =
    .error (.missingOperand .errorAppend) := rfl

end PipeShell.Line
