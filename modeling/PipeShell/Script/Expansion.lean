import PipeShell.Script.Fields
import PipeShell.Script.State

/-! # Expansion of words

Parameters, commands and expressions in a word are replaced by their values.
Values outside quotes are then split into fields, and fields with unquoted
pattern characters are replaced by the paths they stand for. -/

set_option autoImplicit false

namespace PipeShell.Script

open PipeShell.System

structure Hooks where
  /-- Runs a command and goes on with its output. -/
  substitute : Command → State → (State → Bytes → Program) → Program
  /-- Goes on after an error that was told. -/
  fail : Next

inductive Homes where
  | nowhere
  | atStart
  | behindColons
  /-- At its beginning and behind every colon. -/
  | everywhere
  deriving DecidableEq, Repr

def accountHomes : List (String × String) :=
  [("root", "/root"), ("daemon", "/usr/sbin"), ("bin", "/bin"), ("sys", "/dev"), ("sync", "/bin"),
    ("games", "/usr/games"), ("man", "/var/cache/man"), ("lp", "/var/spool/lpd"), ("mail", "/var/mail"),
    ("news", "/var/spool/news"), ("uucp", "/var/spool/uucp"), ("proxy", "/bin"), ("www-data", "/var/www"),
    ("backup", "/var/backups"), ("list", "/var/list"), ("irc", "/run/ircd"), ("nobody", "/nonexistent")]

/-- A text with a home directory in front, if it begins with one. `closed` tells
that the text ends where a home directory may end. -/
def homeParts (state : State) (closed : Bool) (text : List Char) : List Part :=
  match text with
  | '~' :: rest =>
    let name := String.ofList (rest.takeWhile (· != '/'))
    let behind := rest.dropWhile (· != '/')
    let home := if name.isEmpty then state.lookup? "HOME" else accountHomes.lookup name
    match home with
    | some home =>
      if closed || !behind.isEmpty then [.text home true, .text (String.ofList behind) false]
      else [.text (String.ofList text) false]
    | none => [.text (String.ofList text) false]
  | text => [.text (String.ofList text) false]

/-- The parts of a text that stands for itself, home directories aside. `last`
tells that the word ends with it. -/
def literalParts (state : State) (homes : Homes) (last : Bool) (text : String) : List Part :=
  let split := homes = .behindColons || homes = .everywhere
  match (if split then text.toList.splitOn ':' else [text.toList]) with
  | [] => []
  | first :: rest =>
    let count := rest.length
    let opening :=
      if homes = .atStart || homes = .everywhere then homeParts state (last || count > 0) first
      else [.text (String.ofList first) false]
    opening ++ rest.zipIdx.flatMap fun (segment, index) =>
      .text ":" false :: homeParts state (last || index + 1 < count) segment

def Homes.afterStart : Homes → Homes
  | .nowhere => .nowhere
  | .atStart => .nowhere
  | .behindColons => .behindColons
  | .everywhere => .behindColons

def valuePart (quoted : Bool) (text : String) : Part := if quoted then .text text true else .value text

def isAll (name : String) : Bool := name == "@" || name == "*"

/-- The parts of a parameter; nothing if it is missing. Parameters that are not
split are joined. -/
def parameterParts (context : Context) (state : State) (splits quoted : Bool) (name : String) : Option (List Part) :=
  if !isAll name then (state.parameter? context name).map fun text => [valuePart quoted text]
  else if state.positional.isEmpty then none
  else if quoted && splits && name == "@" then some [.fields state.positional]
  else if !quoted && splits then some [.values state.positional]
  else some [valuePart quoted (joinTexts state.joint state.positional)]

def parameterLength? (context : Context) (state : State) (name : String) : Option Nat :=
  if !isAll name then (state.parameter? context name).map byteCount
  else if state.positional.isEmpty then none
  else some (state.positional.foldl (· + byteCount ·) 0 + (state.positional.length - 1))
where
  /-- The number of bytes of a text. -/
  byteCount (text : String) : Nat := (rawBytes text).length

def cutFront (longest : Bool) (pattern : List PatternItem) (value : Bytes) : Bytes :=
  let lengths := List.range (value.length + 1)
  let lengths := if longest then lengths.reverse else lengths
  match lengths.find? fun length => covers pattern (value.take length) with
  | some length => value.drop length
  | none => value

def cutBack (longest : Bool) (pattern : List PatternItem) (value : Bytes) : Bytes :=
  let lengths := List.range (value.length + 1)
  let lengths := if longest then lengths else lengths.reverse
  match lengths.find? fun length => covers pattern (value.drop length) with
  | some length => value.take length
  | none => value

/-- The text of the output of a command: without NUL and without the line ends at
its end. -/
def outputText (data : Bytes) : String :=
  rawText ((data.filter (· != 0)).reverse.dropWhile (· == 10)).reverse

def arithmeticMessage (source : String) : ArithmeticError → String
  | .expression text => "arithmetic expression: " ++ text ++ ": \"" ++ source ++ "\""
  | .notNumber text => "Illegal number: " ++ text
  | .fixed name => name ++ ": is read only"

/-- The parts that stand for a missing parameter: what was written without quotes
is split like a value. -/
def operandParts (quoted : Bool) (parts : List Part) : List Part :=
  if quoted then parts
  else parts.map fun part =>
    match part with
    | .text text false => .value text
    | part => part

/-- Expands the pieces of a word, at most `bound` deep. `splits` tells that the
word will be split. -/
def expandPieces (context : Context) (hooks : Hooks) :
    Nat → Bool → Homes → Word → State → List Part → (State → List Part → Program) → Program
  | 0, _, _, _, state, done, next => next state done.reverse
  | _ + 1, _, _, [], state, done, next => next state done.reverse
  | bound + 1, splits, homes, piece :: rest, state, done, next =>
    let go (state : State) (parts : List Part) : Program :=
      expandPieces context hooks bound splits homes.afterStart rest state (parts.reverse ++ done) next
    match piece with
    | .literal text => go state (literalParts state homes rest.isEmpty text)
    | .quoted text => go state [.quotes, .text text true]
    | .command body quoted =>
      hooks.substitute body state fun state data => go state [valuePart quoted (outputText data)]
    | .arithmetic body quoted =>
      expandPieces context hooks bound false .nowhere body state [] fun state parts =>
        let source := plainText (joinParts state.joint parts)
        let scope : Arithmetic.Scope := {
          value? := state.parameter? context
          isFixed := fun name => ((state.binding? name).map Variable.fixed).getD false }
        match Arithmetic.compute scope source with
        | .ok (value, assigned) =>
          let state := assigned.foldl (fun state (name, value) => state.assign name (toString value)) state
          go state [valuePart quoted (toString value)]
        | .error error => state.complain (arithmeticMessage source error) hooks.fail
    | .parameter name use quoted =>
      let present := parameterParts context state splits quoted name
      let length := parameterLength? context state name
      let missing (orNull : Bool) : Bool :=
        if isAll name then orNull && length.getD 0 == 0 else length.isNone || (orNull && length == some 0)
      let unset (text : String) : Program := state.complain (name ++ ": " ++ text) hooks.fail
      let plain (state : State) : Program :=
        match parameterParts context state splits quoted name with
        | some parts => go state parts
        | none => if state.has 'u' && !isAll name then unset "parameter not set" else go state []
      let operand (word : Word) (next : State → List Part → Program) : Program :=
        expandPieces context hooks bound splits (if quoted then .nowhere else .atStart) word state [] next
      let whole (word : Word) (next : State → List Marked → Program) : Program :=
        expandPieces context hooks bound false (if quoted then .nowhere else .atStart) word state [] fun state parts =>
          next state (joinParts state.joint parts)
      match use with
      | .value => plain state
      | .faulty => state.complain "Bad substitution" hooks.fail
      | .length =>
        if length.isNone && state.has 'u' && !isAll name then unset "parameter not set"
        else go state [valuePart quoted (toString (length.getD 0))]
      | .fallback orNull word =>
        if missing orNull then operand word fun state parts => go state (operandParts quoted parts)
        else go state (present.getD [])
      | .alternative orNull word =>
        if missing orNull then go state []
        else operand word fun state parts => go state (operandParts quoted parts)
      | .supply orNull word =>
        if missing orNull then
          whole word fun state marked =>
            if !isName name then state.complain (name ++ ": bad variable name") hooks.fail
            else
              match state.assign? name (plainText marked) with
              | some state => plain state
              | none => state.complain (name ++ ": is read only") hooks.fail
        else plain state
      | .require orNull word =>
        if missing orNull then
          match word with
          | [] => unset (if orNull then "parameter not set or null" else "parameter not set")
          | word => whole word fun state marked =>
              state.complain (name ++ ": " ++ plainText marked) hooks.fail
        else plain state
      | .cut atEnd longest pattern =>
        match length with
        | none => plain state
        | some _ =>
          let value :=
            if isAll name then String.intercalate " " state.positional else (state.parameter? context name).getD ""
          expandPieces context hooks bound false .nowhere pattern state [] fun state parts =>
            let items := patternItems (joinParts state.joint parts)
            let cut := (if atEnd then cutBack else cutFront) longest items (rawBytes value)
            go state [valuePart quoted (rawText cut)]

def expandText (context : Context) (hooks : Hooks) (bound : Nat) (homes : Homes) (word : Word) (state : State)
    (next : State → List Marked → Program) : Program :=
  expandPieces context hooks bound false homes word state [] fun state parts =>
    next state (joinParts state.joint parts)

def expandFields (context : Context) (hooks : Hooks) (bound : Nat) (word : Word) (state : State)
    (next : State → List String → Program) : Program :=
  expandPieces context hooks bound true .atStart word state [] fun state parts =>
    let fields := splitFields state.separators parts
    if fields.any isMagic && !state.has 'f' then
      .look fun files =>
        next state (fields.flatMap fun field =>
          if isMagic field then expandPattern files state.viewer field else [plainText field])
    else next state (fields.map plainText)

/-- The fields of several words in order. Where the fields so far make a command
that assigns, a word such as `name=value` is one field. -/
def expandAll (context : Context) (hooks : Hooks) (bound : Nat) (assigns : List String → Bool) (words : List Word)
    (state : State) (done : List String) (next : State → List String → Program) : Program :=
  match words with
  | [] => next state done.reverse
  | word :: rest =>
    match (if assigns done.reverse then assignment? word else none) with
    | some (name, value) =>
      expandText context hooks bound .everywhere value state fun state marked =>
        expandAll context hooks bound assigns rest state ((name ++ "=" ++ plainText marked) :: done) next
    | none =>
      expandFields context hooks bound word state fun state fields =>
        expandAll context hooks bound assigns rest state (fields.reverse ++ done) next

end PipeShell.Script
