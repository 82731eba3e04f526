import PipeShell.Script.Command

/-! # Arithmetic of scripts

Integer expressions with variables, assignments and the usual operators. Values
wrap around at 64 bits. An operand that cannot change the value is read but not
computed, and assigns nothing. -/

set_option autoImplicit false

namespace PipeShell.Script

inductive ArithmeticError where
  /-- The expression is malformed, or divides by zero. -/
  | expression (text : String)
  /-- A variable in it has a text that is no number. -/
  | notNumber (text : String)
  /-- A variable in it cannot be changed. -/
  | fixed (name : String)
  deriving DecidableEq, Repr

namespace Arithmetic

def wrap (value : Int) : Int := Int.bmod value 18446744073709551616

def greatest : Int := 9223372036854775807

def digit? (base : Nat) (c : Char) : Option Nat :=
  let value :=
    if c.isDigit then c.toNat - '0'.toNat
    else if 'a' ≤ c && c ≤ 'f' then c.toNat - 'a'.toNat + 10
    else if 'A' ≤ c && c ≤ 'F' then c.toNat - 'A'.toNat + 10
    else base
  if value < base then some value else none

/-- The digits at the beginning of a text, as a number, with the text behind
them. -/
def readDigits (base : Nat) (text : List Char) : Nat × List Char :=
  let digits := text.takeWhile fun c => (digit? base c).isSome
  (digits.foldl (fun value c => value * base + (digit? base c).getD 0) 0, text.drop digits.length)

/-- The number at the beginning of a text, with the text behind it. A zero in
front announces base 8, and `0x` base 16. -/
def readNumber (text : List Char) : Nat × List Char :=
  match text with
  | '0' :: x :: rest =>
    if (x = 'x' || x = 'X') && (rest.head?.bind (digit? 16)).isSome then readDigits 16 rest
    else readDigits 8 text
  | text => readDigits 10 text

def isSpace (c : Char) : Bool := c = ' ' || ('\t' ≤ c && c ≤ '\r')

/-- The number that a whole text stands for; a text of nothing but blanks is
zero. -/
def number? (text : String) : Option Int :=
  let chars := text.toList.dropWhile isSpace
  if chars.isEmpty then some 0
  else
    let negative := chars.head? == some '-'
    let digits := if negative || chars.head? == some '+' then chars.drop 1 else chars
    if !(digits.head?.map Char.isDigit).getD false then none
    else
      let (size, rest) := readNumber digits
      let value : Int := if negative then -(Int.ofNat size) else Int.ofNat size
      if !rest.all isSpace || value < -greatest - 1 || greatest < value then none else some value

inductive Token where
  | number (value : Int)
  | name (text : String)
  | operator (symbol : String)
  /-- A character that belongs to no expression; nothing behind it is read. -/
  | stray
  deriving DecidableEq, Repr

def operators : List String :=
  ["<<=", ">>=", "<<", ">>", "<=", ">=", "==", "!=", "&&", "||", "|=", "&=", "*=", "/=", "%=", "+=", "-=", "^=",
    "<", ">", "|", "&", "!", "(", ")", "*", "/", "%", "+", "-", "~", "^", "?", ":", "="]

def tokens : Nat → List Char → List Token
  | 0, _ => []
  | bound + 1, text =>
    match text.dropWhile fun c => c = ' ' || c = '\t' || c = '\n' with
    | [] => []
    | c :: rest =>
      if c.isDigit then
        let (value, after) := readNumber (c :: rest)
        .number (min (Int.ofNat value) greatest) :: tokens bound after
      else if isNameStart c then
        .name (String.ofList ((c :: rest).takeWhile isNameChar)) :: tokens bound ((c :: rest).dropWhile isNameChar)
      else
        match operators.find? fun symbol => symbol.toList.isPrefixOf (c :: rest) with
        | some symbol => .operator symbol :: tokens bound ((c :: rest).drop symbol.length)
        | none => [.stray]

/-- How weakly an operator between two operands binds, if it is one of those that
compute both. -/
def weakness? (symbol : String) : Option Nat :=
  match symbol with
  | "*" | "/" | "%" => some 0
  | "+" | "-" => some 1
  | "<<" | ">>" => some 2
  | "<" | "<=" | ">" | ">=" => some 3
  | "==" | "!=" => some 4
  | "&" => some 5
  | "^" => some 6
  | "|" => some 7
  | _ => none

def truth (condition : Bool) : Int := if condition then 1 else 0

def shiftCount (value : Int) : Nat := (value % 64).toNat

def apply (symbol : String) (a b : Int) : Except ArithmeticError Int :=
  match symbol with
  | "|" => .ok (a.toInt64 ||| b.toInt64).toInt
  | "^" => .ok (a.toInt64 ^^^ b.toInt64).toInt
  | "&" => .ok (a.toInt64 &&& b.toInt64).toInt
  | "==" => .ok (truth (a == b))
  | "!=" => .ok (truth (a != b))
  | "<=" => .ok (truth (a ≤ b))
  | ">=" => .ok (truth (b ≤ a))
  | "<" => .ok (truth (a < b))
  | ">" => .ok (truth (b < a))
  | "<<" => .ok (wrap (a * Nat.pow 2 (shiftCount b)))
  | ">>" => .ok (a / Nat.pow 2 (shiftCount b))
  | "+" => .ok (wrap (a + b))
  | "-" => .ok (wrap (a - b))
  | "*" => .ok (wrap (a * b))
  | "/" => if b = 0 then .error (.expression "division by zero") else .ok (wrap (Int.tdiv a b))
  | _ => if b = 0 then .error (.expression "division by zero") else .ok (Int.tmod a b)

/-- What the variables of an expression are, and may become. -/
structure Scope where
  value? : String → Option String
  isFixed : String → Bool

/-- What is left of an expression, and what it has assigned so far. -/
structure Progress where
  rest : List Token
  assigned : List (String × Int) := []

def Progress.lookup (progress : Progress) (scope : Scope) (name : String) : Except ArithmeticError Int :=
  match progress.assigned.lookup name with
  | some value => .ok value
  | none =>
    let text := (scope.value? name).getD ""
    match number? text with
    | some value => .ok value
    | none => .error (.notNumber text)

def Progress.symbol? (progress : Progress) : Option String :=
  match progress.rest with
  | .operator symbol :: _ => some symbol
  | _ => none

def Progress.skip (progress : Progress) : Progress := { progress with rest := progress.rest.tail }

/-- The operator of an assignment such as `+=`; the empty text for a plain
assignment. -/
def assignmentOperator? (symbol : String) : Option String :=
  if symbol == "=" then some ""
  else if ["<<=", ">>=", "|=", "&=", "*=", "/=", "%=", "+=", "-=", "^="].contains symbol then
    some (String.ofList symbol.toList.dropLast)
  else none

abbrev Result := Except ArithmeticError (Int × Progress)

variable (scope : Scope)

mutual

/-- An assignment, or any weaker expression. An `idle` expression computes
nothing that can be seen. -/
def assignment : Nat → Bool → Progress → Result
  | 0, _, _ => .error (.expression "expecting primary")
  | bound + 1, idle, progress =>
    match progress.rest with
    | .name name :: .operator symbol :: rest =>
      match assignmentOperator? symbol with
      | none => choice bound idle progress
      | some operator => do
        let (right, after) ← assignment bound idle { progress with rest }
        if idle then .ok (right, after)
        else
          let value ←
            if operator.isEmpty then .ok right
            else do apply operator (← after.lookup scope name) right
          if scope.isFixed name then .error (.fixed name)
          else .ok (value, { after with assigned := (name, value) :: after.assigned })
    | _ => choice bound idle progress

def choice : Nat → Bool → Progress → Result
  | 0, _, _ => .error (.expression "expecting primary")
  | bound + 1, idle, progress => do
    let (condition, after) ← disjunction bound idle progress
    if after.symbol? != some "?" then .ok (condition, after)
    else
      let (positive, after) ← assignment bound (idle || condition = 0) after.skip
      if after.symbol? != some ":" then .error (.expression "expecting ':'")
      else
        let (negative, after) ← choice bound (idle || condition != 0) after.skip
        .ok (if condition != 0 then positive else negative, after)

def disjunction : Nat → Bool → Progress → Result
  | 0, _, _ => .error (.expression "expecting primary")
  | bound + 1, idle, progress => do
    let (first, after) ← conjunction bound idle progress
    if after.symbol? != some "||" then .ok (first, after)
    else
      let (second, after) ← disjunction bound (idle || first != 0) after.skip
      .ok (truth (first != 0 || second != 0), after)

def conjunction : Nat → Bool → Progress → Result
  | 0, _, _ => .error (.expression "expecting primary")
  | bound + 1, idle, progress => do
    let (first, after) ← operand bound idle progress
    let (first, after) ←
      match after.symbol?.bind fun symbol => (weakness? symbol).map (symbol, ·) with
      | some (symbol, _) => operations bound idle first symbol 8 after.skip
      | none => .ok (first, after)
    if after.symbol? != some "&&" then .ok (first, after)
    else
      let (second, after) ← conjunction bound (idle || first = 0) after.skip
      .ok (truth (first != 0 && second != 0), after)

/-- The operations that follow a first operand, as long as they bind more
strongly than the limit. -/
def operations : Nat → Bool → Int → String → Nat → Progress → Result
  | 0, _, _, _, _, _ => .error (.expression "expecting primary")
  | bound + 1, idle, first, symbol, limit, progress => do
    let weakness := (weakness? symbol).getD 0
    let (second, after) ← operand bound idle progress
    let (second, after) ←
      match after.symbol?.bind fun next => (weakness? next).map (next, ·) with
      | some (next, other) =>
        if other < weakness then operations bound idle second next weakness after.skip else .ok (second, after)
      | none => .ok (second, after)
    let value ← if idle then .ok second else apply symbol first second
    match after.symbol?.bind fun next => (weakness? next).map (next, ·) with
    | some (next, other) =>
      if other < limit then operations bound idle value next limit after.skip else .ok (value, after)
    | none => .ok (value, after)

/-- A number, a variable, an expression in parentheses, or one of these with a
sign in front. -/
def operand : Nat → Bool → Progress → Result
  | 0, _, _ => .error (.expression "expecting primary")
  | bound + 1, idle, progress =>
    match progress.rest with
    | .number value :: rest => .ok (value, { progress with rest })
    | .name name :: rest => do
      let value ← if idle then .ok 0 else progress.lookup scope name
      .ok (value, { progress with rest })
    | .operator "(" :: rest => do
      let (value, after) ← assignment bound idle { progress with rest }
      if after.symbol? != some ")" then .error (.expression "expecting ')'") else .ok (value, after.skip)
    | .operator "+" :: rest => operand bound idle { progress with rest }
    | .operator "-" :: rest => do
      let (value, after) ← operand bound idle { progress with rest }
      .ok (wrap (-value), after)
    | .operator "!" :: rest => do
      let (value, after) ← operand bound idle { progress with rest }
      .ok (truth (value = 0), after)
    | .operator "~" :: rest => do
      let (value, after) ← operand bound idle { progress with rest }
      .ok (-value - 1, after)
    | _ => .error (.expression "expecting primary")

end

def compute (source : String) : Except ArithmeticError (Int × List (String × Int)) := do
  let rest := tokens (source.length + 1) source.toList
  let (value, after) ← assignment scope (16 * rest.length + 16) false { rest }
  if after.rest.isEmpty then .ok (value, after.assigned.reverse) else .error (.expression "expecting EOF")

end Arithmetic

end PipeShell.Script
