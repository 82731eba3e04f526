import PipeShell.Text.Regex.Parser
import PipeShell.Utility.Basic

/-! # Expressions

Arithmetic, comparisons and text operations whose operators and operands are
words of their own. -/

set_option autoImplicit false

namespace PipeShell.Utility.Expression

open PipeShell.System

inductive ExpressionError where
  | missing (after : String)
  | unexpected (word : String)
  | unclosed (after : String)
  | notClosing (word : String)
  | strayClosing
  | notInteger
  | divisionByZero
  | badRegex (error : Text.RegexError)
  deriving DecidableEq, Repr

def ExpressionError.message : ExpressionError → String
  | .missing word => "syntax error: missing argument after " ++ shown word
  | .unexpected word => "syntax error: unexpected argument " ++ shown word
  | .unclosed word => "syntax error: expecting ')' after " ++ shown word
  | .notClosing word => "syntax error: expecting ')' instead of " ++ shown word
  | .strayClosing => "syntax error: unexpected ')'"
  | .notInteger => "non-integer argument"
  | .divisionByZero => "division by zero"
  | .badRegex error => error.message

def number? (value : String) : Option Int :=
  match value.toList with
  | '+' :: _ => none
  | _ => integer? value

def isNull (value : String) : Bool :=
  value.isEmpty ||
    (match value.toList with
    | '-' :: digits => !digits.isEmpty && digits.all (· = '0')
    | digits => digits.all (· = '0'))

/-- The match of a pattern at the beginning of a text: what its first group has
matched, or how long it is. -/
def matched (text pattern : String) : Except ExpressionError String :=
  match Text.Regex.parse { strictCounts := true } (rawBytes pattern) with
  | .error e => .error (.badRegex e)
  | .ok (regex, groups) =>
    let line := (rawBytes text).toArray
    match Text.Regex.longest? false line regex 0 with
    | none => .ok (if groups = 0 then "0" else "")
    | some (stop, found) =>
      if groups = 0 then .ok (toString stop)
      else
        match found.lookup 1 with
        | some (start, stop) => .ok (rawText (line.extract start stop).toList)
        | none => .ok ""

def compared (operator left right : String) : Bool :=
  let order : Ordering :=
    match number? left, number? right with
    | some a, some b => compare a b
    | _, _ => if bytesBefore (rawBytes left) (rawBytes right) then .lt else if left == right then .eq else .gt
  match operator with
  | "<" => order == .lt
  | "<=" => order != .gt
  | ">" => order == .gt
  | ">=" => order != .lt
  | "!=" => order != .eq
  | _ => order == .eq

def computed (operator left right : String) : Except ExpressionError String :=
  match number? left, number? right with
  | some a, some b =>
    match operator with
    | "+" => .ok (toString (a + b))
    | "-" => .ok (toString (a - b))
    | "*" => .ok (toString (a * b))
    | "/" => if b = 0 then .error .divisionByZero else .ok (toString (a.tdiv b))
    | _ => if b = 0 then .error .divisionByZero else .ok (toString (a.tmod b))
  | _, _ => .error .notInteger

def operatorsAt (level : Nat) : List String :=
  match level with
  | 0 => ["|"]
  | 1 => ["&"]
  | 2 => ["<", "<=", "=", "==", "!=", ">=", ">"]
  | 3 => ["+", "-"]
  | 4 => ["*", "/", "%"]
  | _ => [":"]

def applied (level : Nat) (operator left right : String) : Except ExpressionError String :=
  match level with
  | 0 => .ok (if !isNull left then left else if isNull right then "0" else right)
  | 1 => .ok (if isNull left || isNull right then "0" else left)
  | 2 => .ok (if compared operator left right then "1" else "0")
  | 3 => computed operator left right
  | 4 => computed operator left right
  | _ => matched left right

abbrev Reading := String × String × List String

def takeWord (before : String) : List String → Except ExpressionError Reading
  | [] => .error (.missing before)
  | word :: rest => .ok (word, word, rest)

mutual

/-- Evaluates an expression of a level, at most `bound` steps deep. Without `live`,
its value does not matter and may be wrong. -/
def level (bound depth : Nat) (live : Bool) (before : String) (words : List String) : Except ExpressionError Reading :=
  match bound with
  | 0 => .error (.missing before)
  | bound + 1 =>
    if depth = 6 then operand bound live before words
    else
      match level bound (depth + 1) live before words with
      | .error e => .error e
      | .ok (value, before, rest) => chain bound depth live value before rest

def chain (bound depth : Nat) (live : Bool) (left before : String) (words : List String) : Except ExpressionError Reading :=
  match bound with
  | 0 => .error (.missing before)
  | bound + 1 =>
    match words with
    | [] => .ok (left, before, [])
    | operator :: rest =>
      if !(operatorsAt depth).contains operator then .ok (left, before, operator :: rest)
      else
        let needed := live && !(depth = 0 && !isNull left) && !(depth = 1 && isNull left)
        match level bound (depth + 1) needed operator rest with
        | .error e => .error e
        | .ok (right, before, rest) =>
          if !live then chain bound depth live left before rest
          else
            match applied depth operator left right with
            | .error e => .error e
            | .ok value => chain bound depth live value before rest

def operand (bound : Nat) (live : Bool) (before : String) (words : List String) : Except ExpressionError Reading :=
  match bound with
  | 0 => .error (.missing before)
  | bound + 1 =>
    match words with
    | "+" :: rest => takeWord "+" rest
    | "length" :: rest => do
      let (text, before, rest) ← operand bound live "length" rest
      return (toString text.utf8ByteSize, before, rest)
    | "match" :: rest => do
      let (text, before, rest) ← operand bound live "match" rest
      let (pattern, before, rest) ← operand bound live before rest
      if live then return (← matched text pattern, before, rest) else return ("", before, rest)
    | "index" :: rest => do
      let (text, before, rest) ← operand bound live "index" rest
      let (letters, before, rest) ← operand bound live before rest
      let place := ((rawBytes text).findIdx? (rawBytes letters).contains).elim 0 (· + 1)
      return (toString place, before, rest)
    | "substr" :: rest => do
      let (text, before, rest) ← operand bound live "substr" rest
      let (start, before, rest) ← operand bound live before rest
      let (length, before, rest) ← operand bound live before rest
      let value :=
        match number? start, number? length with
        | some start, some length =>
          if start ≤ 0 || length ≤ 0 then "" else rawText (((rawBytes text).drop (start.toNat - 1)).take length.toNat)
        | _, _ => ""
      return (value, before, rest)
    | "(" :: rest =>
      match level bound 0 live "(" rest with
      | .error e => .error e
      | .ok (_, before, []) => .error (.unclosed before)
      | .ok (value, _, word :: rest) => if word == ")" then .ok (value, ")", rest) else .error (.notClosing word)
    | ")" :: _ => .error .strayClosing
    | words => takeWord before words

end

def evaluate (words : List String) : Except ExpressionError String :=
  match level (9 * words.length + 9) 0 true "" words with
  | .error e => .error e
  | .ok (value, _, []) => .ok value
  | .ok (_, _, word :: _) => .error (.unexpected word)

end PipeShell.Utility.Expression

namespace PipeShell.Utility

def express : Utility := fun invocation =>
  let words :=
    match invocation.arguments with
    | "--" :: rest => rest
    | arguments => arguments
  if words.isEmpty then refuse invocation "missing operand" 2
  else
    match Expression.evaluate words with
    | .error e => fail invocation e.message 2
    | .ok value => emitAll invocation (rawBytes (value ++ "\n")) (if Expression.isNull value then 1 else 0) 3

end PipeShell.Utility
