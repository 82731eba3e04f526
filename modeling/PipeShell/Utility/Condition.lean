import PipeShell.Utility.Basic

/-! # Conditions

The expressions of `test`: how many words there are decides how they are read,
so that any word may be an operand. -/

set_option autoImplicit false

namespace PipeShell.Utility

open PipeShell.System

structure ConditionContext where
  files : FileSystem
  viewer : Viewer

namespace ConditionContext

def has (context : ConditionContext) (path : String) : Bool := context.files.hasPath context.viewer path

def isSame (context : ConditionContext) (left right : String) : Bool :=
  match context.files.stat context.viewer left, context.files.stat context.viewer right with
  | .ok (_, .file a), .ok (_, .file b) => a = b
  | .ok (a, _), .ok (b, _) => a == b
  | _, _ => false

end ConditionContext

def fileTest (context : ConditionContext) (operator path : String) : Option Bool :=
  let stat := context.files.stat context.viewer path
  let node (test : Node → Bool) : Bool :=
    match stat with
    | .ok (_, node) => test node
    | .error _ => false
  let access (permission : Permission) : Bool := context.files.mayAccess context.viewer permission path
  match operator with
  | "-e" => some stat.toBool
  | "-N" => some false
  | "-f" => some (node Node.isFile)
  | "-d" => some (node Node.isDirectory)
  | "-c" => some (node fun node => match node with
      | .device _ => true
      | _ => false)
  | "-b" => some false
  | "-p" => some (node fun node => match node with
      | .pipe _ => true
      | _ => false)
  | "-S" => some false
  | "-s" => some (node fun node => match node with
      | .file number => ((context.files.stored[number]?).map fun file => !file.content.isEmpty).getD false
      | .directory _ => true
      | .program _ => true
      | _ => false)
  | "-O" => some (node fun node => (context.files.attributesOf node).owner = context.viewer.user.number)
  | "-G" => some stat.toBool
  | "-u" => some (node fun node => (context.files.attributesOf node).mode / 0o4000 % 2 = 1)
  | "-g" => some (node fun node => (context.files.attributesOf node).mode / 0o2000 % 2 = 1)
  | "-k" => some (node fun node => (context.files.attributesOf node).mode / 0o1000 % 2 = 1)
  | "-r" => some (access .read)
  | "-w" => some (access .write)
  | "-x" => some (access .execute)
  | "-L" => some (linked path)
  | "-h" => some (linked path)
  | "-t" => some false
  | _ => none
where
  linked (path : String) : Bool :=
    match context.files.resolve context.viewer .keep path with
    | .ok ⟨_, some (.link _)⟩ => true
    | _ => false

def unaryTest (context : ConditionContext) (operator word : String) : Option Bool :=
  match operator with
  | "-z" => some word.isEmpty
  | "-n" => some !word.isEmpty
  | _ => fileTest context operator word

def binaryTest (context : ConditionContext) (left operator right : String) : Option (Except String Bool) :=
  let compare (test : Int → Int → Bool) : Option (Except String Bool) :=
    match integer? left.trimAscii.toString, integer? right.trimAscii.toString with
    | some a, some b => some (.ok (test a b))
    | none, _ => some (.error left)
    | _, none => some (.error right)
  match operator with
  | "=" => some (.ok (left == right))
  | "==" => some (.ok (left == right))
  | "!=" => some (.ok (left != right))
  | "-eq" => compare (· == ·)
  | "-ne" => compare (· != ·)
  | "-lt" => compare (· < ·)
  | "-le" => compare (· ≤ ·)
  | "-gt" => compare (· > ·)
  | "-ge" => compare (· ≥ ·)
  | "-ef" => some (.ok (context.isSame left right))
  | "-nt" => some (.ok (context.has left && !context.has right))
  | "-ot" => some (.ok (!context.has left && context.has right))
  | _ => none

inductive ConditionError where
  | notNumber (word : String)
  | missingArgument (word : String)
  | unaryExpected (word : String)
  | binaryExpected (word : String)
  /-- No closing parenthesis where one should stand; the word that stands there. -/
  | notClosed (found : Option String)
  | extraArgument (word : String)
  deriving DecidableEq, Repr

inductive ConditionPart where
  /-- A condition of a number of words. -/
  | counted (count : Nat)
  | alternatives
  | conjunction
  | term
  deriving DecidableEq, Repr

/-- Reads a part of a condition, and its value comes with the words that are left.
The words are read for the whole condition, so a part may take words that are not
its own. -/
abbrev ConditionReader := List String → Except ConditionError (Bool × List String)

namespace ConditionReader

def negate (reader : ConditionReader) : ConditionReader := fun words =>
  (reader words).map fun (value, rest) => (!value, rest)

def single (last : String) : ConditionReader
  | [] => .error (.missingArgument last)
  | word :: rest => .ok (!word.isEmpty, rest)

def unary (context : ConditionContext) (last : String) : ConditionReader
  | [] => .error (.missingArgument last)
  | [_] => .error (.missingArgument last)
  | operator :: word :: rest =>
    if operator == "-t" && (integer? word.trimAscii.toString).isNone then .error (.notNumber word)
    else
      match unaryTest context operator word with
      | some value => .ok (value, rest)
      | none => .error (.unaryExpected operator)

def binary? (context : ConditionContext) : List String → Option (Except ConditionError (Bool × List String))
  | left :: operator :: right :: rest =>
    (binaryTest context left operator right).map fun value =>
      match value with
      | .ok value => .ok (value, rest)
      | .error word => .error (.notNumber word)
  | _ => none

def isSwitch (word : String) : Bool := word.toList.head? == some '-' && word.length = 2

def ofTwo (context : ConditionContext) (last : String) : ConditionReader
  | "!" :: rest => negate (single last) rest
  | words => if (words.head?.map isSwitch).getD false then unary context last words else .error (.missingArgument last)

def enclosed (words : List String) : Nat :=
  let count := ((words.drop 1).takeWhile (· != ")")).length + 1
  if 4 ≤ count then words.length else count

def read (context : ConditionContext) (last : String) : Nat → ConditionPart → ConditionReader
  | 0, _ => fun _ => .error (.missingArgument last)
  | bound + 1, part => fun words =>
    let three : ConditionReader := fun words =>
      match binary? context words, words with
      | some answer, _ => answer
      | none, "!" :: rest => negate (ofTwo context last) rest
      | none, [] => .error (.missingArgument last)
      | none, left :: rest =>
        let operator := rest.headD ""
        if left == "(" && rest[1]? == some ")" then .ok (!operator.isEmpty, rest.drop 2)
        else if operator == "-a" || operator == "-o" then read context last bound .alternatives words
        else .error (.binaryExpected operator)
    match part with
    | .counted 1 => single last words
    | .counted 2 => ofTwo context last words
    | .counted 3 => three words
    | .counted count =>
      match count, words with
      | 4, "!" :: rest => negate three rest
      | 4, "(" :: rest =>
        if words[3]? == some ")" then (ofTwo context last rest).map fun (value, rest) => (value, rest.drop 1)
        else read context last bound .alternatives words
      | _, words => read context last bound .alternatives words
    | .alternatives => do
      let (value, rest) ← read context last bound .conjunction words
      match rest with
      | "-o" :: rest => (read context last bound .alternatives rest).map fun (other, rest) => (value || other, rest)
      | rest => .ok (value, rest)
    | .conjunction => do
      let (value, rest) ← read context last bound .term words
      match rest with
      | "-a" :: rest => (read context last bound .conjunction rest).map fun (other, rest) => (value && other, rest)
      | rest => .ok (value, rest)
    | .term =>
      match words with
      | [] => .error (.missingArgument last)
      | "!" :: rest => negate (read context last bound .term) rest
      | "(" :: rest =>
        if rest.isEmpty then .error (.missingArgument last)
        else do
          let (value, after) ← read context last bound (.counted (enclosed rest)) rest
          match after with
          | [] => .error (.notClosed none)
          | ")" :: after => .ok (value, after)
          | word :: _ => .error (.notClosed (some word))
      | word :: rest =>
        match binary? context words with
        | some answer => answer
        | none => if isSwitch word then unary context last words else .ok (!word.isEmpty, rest)

end ConditionReader

def evaluate (context : ConditionContext) (words : List String) : Except ConditionError Bool :=
  if words.isEmpty then .ok false
  else
    match ConditionReader.read context (words.getLastD "") (4 * words.length + 4) (.counted words.length) words with
    | .error e => .error e
    | .ok (value, []) => .ok value
    | .ok (_, word :: _) => .error (.extraArgument word)

def ConditionError.message : ConditionError → String
  | .notNumber word => "invalid integer " ++ shown word
  | .missingArgument word => "missing argument after " ++ shown word
  | .unaryExpected word => shown word ++ ": unary operator expected"
  | .binaryExpected word => shown word ++ ": binary operator expected"
  | .notClosed none => "')' expected"
  | .notClosed (some word) => "')' expected, found " ++ shown word
  | .extraArgument word => "extra argument " ++ shown word

def test : Utility := fun invocation =>
  let bracket := Path.basename invocation.name == "["
  let words := invocation.arguments
  if bracket && words.getLast? != some "]" then fail invocation "missing ']'" 2
  else
    .look fun files =>
      match evaluate ⟨files, invocation.viewer⟩ (if bracket then words.dropLast else words) with
      | .ok true => .exitWith 0
      | .ok false => .exitWith 1
      | .error e => fail invocation e.message 2

end PipeShell.Utility
