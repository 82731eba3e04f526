import PipeShell.Utility.Condition

/-! # Conditions of scripts

The conditions of the built-in `test`. They are read from left to right as
alternatives of conjunctions of terms; a word that could be an operator is one
only if an operand may follow it. -/

set_option autoImplicit false

namespace PipeShell.Script.Condition

open PipeShell.System

inductive Role where
  | unary
  | binary
  | negation
  | conjunction
  | disjunction
  | opening
  | closing
  deriving DecidableEq, Repr

def unaryTests : List String :=
  ["-r", "-w", "-x", "-e", "-f", "-d", "-c", "-b", "-p", "-u", "-g", "-k", "-s", "-t", "-z", "-n", "-h", "-O", "-G",
    "-L", "-S"]

def binaryTests : List String :=
  ["=", "!=", "<", ">", "-eq", "-ne", "-ge", "-gt", "-le", "-lt", "-nt", "-ot", "-ef"]

def roleOf? (word : String) : Option Role :=
  if unaryTests.contains word then some .unary
  else if binaryTests.contains word then some .binary
  else
    match word with
    | "!" => some .negation
    | "-a" => some .conjunction
    | "-o" => some .disjunction
    | "(" => some .opening
    | ")" => some .closing
    | _ => none

def role? (words : List String) : Option Role :=
  match words with
  | [] => none
  | word :: rest =>
    let isOperand : Bool :=
      match rest with
      | [] => true
      | [_] => false
      | second :: _ => roleOf? second == some .binary
    match roleOf? word with
    | some .unary => if isOperand then none else some .unary
    | some .opening => if rest.isEmpty then none else some .opening
    | role => role

/-- The value of a condition, and the words from the last one that was used on. -/
abbrev Result := Except String (Bool × List String)

def number (word : String) : Except String Int :=
  let trimmed := String.ofList ((word.toList.dropWhile isBlank).reverse.dropWhile isBlank).reverse
  match Utility.integer? trimmed with
  | some value =>
    if value < -9223372036854775808 || 9223372036854775807 < value then .error ("Illegal number: " ++ word)
    else .ok value
  | none => .error ("Illegal number: " ++ word)
where
  /-- A character that may stand around a number. -/
  isBlank (c : Char) : Bool := c = ' ' || ('\t' ≤ c && c ≤ '\r')

def compare (context : Utility.ConditionContext) (left operator right : String) : Except String Bool :=
  let numbers (test : Int → Int → Bool) : Except String Bool := do
    let a ← number left
    let b ← number right
    .ok (test a b)
  match operator with
  | "=" => .ok (left == right)
  | "!=" => .ok (left != right)
  | "<" => .ok (left < right)
  | ">" => .ok (right < left)
  | "-eq" => numbers (· == ·)
  | "-ne" => numbers (· != ·)
  | "-ge" => numbers (· ≥ ·)
  | "-gt" => numbers (· > ·)
  | "-le" => numbers (· ≤ ·)
  | "-lt" => numbers (· < ·)
  | "-nt" | "-ot" => .ok false
  | operator =>
    match Utility.binaryTest context left operator right with
    | some (.ok value) => .ok value
    | _ => .ok false

def testWord (context : Utility.ConditionContext) (operator word : String) : Except String Bool :=
  match operator with
  | "-t" => (number word).map fun _ => false
  | operator => .ok ((Utility.unaryTest context operator word).getD false)

mutual

def alternatives (context : Utility.ConditionContext) : Nat → List String → Result
  | 0, words => .ok (false, words)
  | bound + 1, words => do
    let (first, after) ← conjunctions context bound words
    if role? after.tail == some .disjunction then
      let (second, after) ← alternatives context bound (after.drop 2)
      .ok (first || second, after)
    else .ok (first, after)

def conjunctions (context : Utility.ConditionContext) : Nat → List String → Result
  | 0, words => .ok (false, words)
  | bound + 1, words => do
    let (first, after) ← negations context bound words
    if role? after.tail == some .conjunction then
      let (second, after) ← conjunctions context bound (after.drop 2)
      .ok (first && second, after)
    else .ok (first, after)

def negations (context : Utility.ConditionContext) : Nat → List String → Result
  | 0, words => .ok (false, words)
  | bound + 1, words =>
    if role? words == some .negation then
      match words.tail with
      | [] => .ok (true, words)
      | rest => (negations context bound rest).map fun (value, after) => (!value, after)
    else primary context bound words

def primary (context : Utility.ConditionContext) : Nat → List String → Result
  | 0, words => .ok (false, words)
  | bound + 1, words =>
    match words with
    | [] => .ok (false, [])
    | word :: rest =>
      match role? words with
      | some .opening =>
        if role? rest == some .closing then .ok (false, rest)
        else do
          let (value, after) ← alternatives context bound rest
          if role? after.tail == some .closing then .ok (value, after.tail) else .error "closing paren expected"
      | some .unary =>
        match rest with
        | [] => .error (word ++ ": argument expected")
        | operand :: _ => (testWord context word operand).map fun value => (value, rest)
      | _ =>
        match rest with
        | operator :: behind =>
          if role? rest == some .binary then
            match behind with
            | [] => .error (operator ++ ": argument expected")
            | right :: _ => (compare context word operator right).map fun value => (value, behind)
          else .ok (!word.isEmpty, words)
        | [] => .ok (!word.isEmpty, words)

end

def evaluateAll (context : Utility.ConditionContext) (words : List String) (comparison : Bool) : Except String Bool := do
  let bound := 8 * words.length + 8
  let (value, after) ←
    match comparison, words with
    | true, [left, operator, right] => (compare context left operator right).map fun value => (value, [right])
    | _, words => alternatives context bound words
  match after with
  | word :: _ :: _ => .error ((if word.isEmpty then "" else word ++ ": ") ++ "unexpected operator")
  | _ => .ok value

def evaluate (context : Utility.ConditionContext) : List String → Except String Bool
  | [] => .ok false
  | first :: rest =>
    let inner := rest.dropLast
    let plain := evaluateAll context (first :: rest) false
    let wrapped := first == "(" && rest.getLast? == some ")"
    match rest.length with
    | 2 =>
      if (rest.head?.bind roleOf?) == some .binary then evaluateAll context (first :: rest) true
      else if wrapped then evaluateAll context inner false
      else if first == "!" then (evaluate context rest).map (!·)
      else plain
    | 3 =>
      if wrapped then evaluateAll context inner false
      else if first == "!" then (evaluate context rest).map (!·)
      else plain
    | _ => plain

end PipeShell.Script.Condition
