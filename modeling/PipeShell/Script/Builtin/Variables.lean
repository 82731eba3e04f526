import PipeShell.Script.Builtin.Basic
import PipeShell.Script.Options

/-! # Built-in commands for variables

Commands that define, hide, read and remove variables, parameters and
aliases. -/

set_option autoImplicit false

namespace PipeShell.Script.Builtin

open PipeShell.System

def definition (word : String) : String × Option String :=
  let chars := word.toList
  match chars.dropWhile (· != '=') with
  | _ :: value => (String.ofList (chars.takeWhile (· != '=')), some (String.ofList value))
  | [] => (word, none)

def showVariables (lead : String) (property : Variable → Bool) (state : State) : String :=
  let chosen := (state.bindings.filter fun (_, held) => property held).mergeSort fun a b => a.1 ≤ b.1
  String.join (chosen.map fun (name, held) =>
    lead ++ name ++ (held.value.elim "" fun value => "=" ++ shellQuoted value) ++ "\n")

def mark (property : Variable → Bool) (give : Variable → Variable) : Builtin := fun _ outcomes words state =>
  withOptions ['p'] [] outcomes words state fun given words =>
    if words.isEmpty || !given.isEmpty then
      printText outcomes (showVariables (state.command.getD "" ++ " ") property state) 0 state
    else
      let rec go (state : State) : List String → Program
        | [] => done outcomes 0 state
        | word :: rest =>
          let (name, value) := definition word
          let settle (state : State) : Program :=
            go (state.put name (give ((state.binding? name).getD { value := none }))) rest
          match value with
          | some value => assign outcomes name value state settle
          | none => if isName name then settle state else refuse outcomes (name ++ ": bad variable name") state
      go state words

def expose : Builtin := mark Variable.exported fun held => { held with exported := true }

def protect : Builtin := mark Variable.fixed fun held => { held with fixed := true }

/-- Gives a function variables of its own, which keep their texts until they get
others. -/
def makeLocal : Builtin := fun _ outcomes words state =>
  match state.frames with
  | [] => refuse outcomes "not in a function" state
  | frame :: frames =>
    let rec go (state : State) (frame : List (String × Option Variable)) : List String → Program
      | [] => done outcomes 0 { state with frames := frame :: frames }
      | "-" :: rest => go state (("-", some { value := some (String.ofList state.options) }) :: frame) rest
      | word :: rest =>
        let (name, value) := definition word
        let frame := (name, state.binding? name) :: frame
        match value with
        | some value => assign outcomes name value state fun state => go state frame rest
        | none => if isName name then go state frame rest else refuse outcomes (name ++ ": bad variable name") state
    go state frame words

def remove : Builtin := fun _ outcomes words state =>
  withOptions ['v', 'f'] [] outcomes words state fun given words =>
    let functions := (given.getLast?.map (·.1)) == some 'f'
    let rec go (state : State) : List String → Program
      | [] => done outcomes 0 state
      | name :: rest =>
        if functions then go { state with functions := state.functions.filter (·.1 != name) } rest
        else if !isName name then refuse outcomes (name ++ ": bad variable name") state
        else
          match state.unset? name with
          | some state => go state rest
          | none => refuse outcomes (name ++ ": is read only") state
    go state words

def configure : Builtin := fun context outcomes words state =>
  if words.isEmpty then printText outcomes (showVariables "" (·.value.isSome) state) 0 state
  else
    match Options.read false (words.length + 1) { set := state.options, words } with
    | .error text => refuse outcomes text state
    | .ok given =>
      let positional := if given.words.isEmpty && !given.closed then state.positional else given.words
      State.withoutTerminal context { state with options := given.set, positional } fun state =>
        match given.shown with
        | some readable => printText outcomes (Options.describe readable state.options) 0 state
        | none => done outcomes 0 state

def shift : Builtin := fun _ outcomes words state =>
  match number (words.headD "1") with
  | .error text => refuse outcomes text state
  | .ok count =>
    if state.positional.length < count then refuse outcomes "can't shift that many" state
    else done outcomes 0 { state with positional := state.positional.drop count }

structure LineDraft where
  /-- The parts so far, the newest first. -/
  parts : List Part := []
  /-- The bytes behind the parts, the newest first. -/
  bytes : Bytes := []

def LineDraft.flush (draft : LineDraft) : LineDraft :=
  if draft.bytes.isEmpty then draft
  else { parts := .value (rawText draft.bytes.reverse) :: draft.parts }

/-- Reads a line of the input byte by byte, at most `bound` bytes; the answer
tells whether the line was complete. A backslash protects what follows it. -/
def readLine (raw : Bool) (next : List Part → Bool → Program) : Nat → Bool → LineDraft → Program
  | 0, _, draft => next draft.flush.parts.reverse false
  | bound + 1, escaped, draft =>
    .read Program.inputDescriptor 1 fun answer =>
      match answer with
      | .ok [b] =>
        if b = 0 then readLine raw next bound escaped draft
        else if escaped then
          if b = 10 then readLine raw next bound false draft.flush
          else
            let flushed := draft.flush
            readLine raw next bound false { flushed with parts := .text (rawText [b]) true :: flushed.parts }
        else if b = 92 && !raw then readLine raw next bound true draft
        else if b = 10 then next draft.flush.parts.reverse true
        else readLine raw next bound false { draft with bytes := b :: draft.bytes }
      | _ => next draft.flush.parts.reverse false

def assignAll (outcomes : Outcomes) : List String → List String → State → Next → Program
  | [], _, state, next => next state
  | name :: names, texts, state, next =>
    assign outcomes name (texts.headD "") state fun state => assignAll outcomes names texts.tail state next

def read : Builtin := fun _ outcomes words state =>
  withOptions ['r'] ['p'] outcomes words state fun given names =>
    if names.isEmpty then refuse outcomes "arg count" state
    else
      readLine (given.any (·.1 == 'r')) (fun parts complete =>
        assignAll outcomes names (splitLine state.separators names.length parts) state
          (done outcomes (if complete then 0 else 1))) Program.lifetime false {}

def giveAlias : Builtin := fun _ outcomes words state =>
  let shownAlias (name value : String) : String := name ++ "=" ++ shellQuoted value ++ "\n"
  if words.isEmpty then
    let sorted := state.aliases.mergeSort fun a b => State.group a.1 ≤ State.group b.1
    printText outcomes (String.join (sorted.map fun (name, value) => shownAlias name value)) 0 state
  else
    let rec go (state : State) (printed : String) (status : Nat) : List String → Program
      | [] => printText outcomes printed status state
      | word :: rest =>
        match definition word with
        | (name, some value) =>
          go { state with aliases := State.putIn name value state.aliases } printed status rest
        | (name, none) =>
          match state.aliases.lookup name with
          | some value => go state (printed ++ shownAlias name value) status rest
          | none => state.say ("alias: " ++ name ++ " not found\n") fun state => go state printed 1 rest
    go state "" 0 words

def takeAlias : Builtin := fun _ outcomes words state =>
  withOptions ['a'] [] outcomes words state fun given words =>
    if !given.isEmpty then done outcomes 0 { state with aliases := [] }
    else
      let rec go (state : State) (status : Nat) : List String → Program
        | [] => done outcomes status state
        | name :: rest =>
          match state.aliases.lookup name with
          | some _ => go { state with aliases := state.aliases.filter (·.1 != name) } status rest
          | none => state.say ("unalias: " ++ name ++ " not found\n") fun state => go state 1 rest
      go state 0 words

/-- The kinds of option letters: those that are known, and whether they take an
argument. -/
def optionKind? (letter : Char) : List Char → Option Bool
  | [] => none
  | c :: rest => if c = letter && c != ':' then some (rest.head? == some ':') else optionKind? letter rest

/-- What taking an option out of words comes to. -/
structure OptionStep where
  /-- The letter that was found, or what stands for it. -/
  found : Char
  /-- What comes with the letter; nothing after an error. -/
  argument : Option String
  index : Nat
  /-- How far the word before was read, if it was not read to its end. -/
  offset : Option Nat
  /-- What is to be said about it. -/
  complaint : Option String := none
  deriving DecidableEq, Repr

/-- Takes an option out of words, of which `index` is the next. `used` letters of
the word before were already read. Without an option, there is only the number
of the next word. -/
def takeOption (pattern : List Char) (words : List String) (index : Nat) (used : Option Nat) : Except Nat OptionStep :=
  let quiet := pattern.head? == some ':'
  let step (text : List Char) (used index : Nat) : Except Nat OptionStep :=
    match text.drop used with
    | [] => .error index
    | letter :: rest =>
      let offset := if rest.isEmpty then none else some (used + 1)
      let faulty (found : Char) (text : String) (offset : Option Nat) : OptionStep :=
        if quiet then { found, argument := some (String.singleton letter), index, offset }
        else { found := '?', argument := none, index, offset, complaint := some text }
      match optionKind? letter pattern with
      | none => .ok (faulty '?' ("Illegal option -" ++ String.singleton letter) offset)
      | some false => .ok { found := letter, argument := some "", index, offset }
      | some true =>
        if !rest.isEmpty then .ok { found := letter, argument := some (String.ofList rest), index, offset := none }
        else
          match words[index - 1]? with
          | some value => .ok { found := letter, argument := some value, index := index + 1, offset := none }
          | none => .ok (faulty ':' ("No arg for -" ++ String.singleton letter ++ " option") none)
  let fresh : Except Nat OptionStep :=
    match words[index - 1]?.map String.toList with
    | some ['-', '-'] => .error (index + 1)
    | some ('-' :: letter :: letters) => step ('-' :: letter :: letters) 1 (index + 1)
    | _ => .error index
  match used, (if 2 ≤ index then words[index - 2]? else none) with
  | some used, some word => if used < word.length then step word.toList used index else fresh
  | _, _ => fresh

def readOption : Builtin := fun _ outcomes words state =>
  match words with
  | pattern :: target :: operands =>
    let words := if operands.isEmpty then state.positional else operands
    let index := state.optionIndex
    let index := if index = 0 || words.length + 1 < index then 1 else index
    let finish (index : Nat) (offset : Option Nat) (found : Char) (status : Nat) (state : State) : Program :=
      assign outcomes "OPTIND" (toString index) state fun state =>
        assign outcomes target (String.singleton found) { state with optionIndex := index, optionOffset := offset }
          (done outcomes status)
    match takeOption pattern.toList words index state.optionOffset with
    | .error index => finish index none '?' 1 state
    | .ok step =>
      let settle (state : State) : Program :=
        match step.argument with
        | some value => assign outcomes "OPTARG" value state (finish step.index step.offset step.found 0)
        | none => finish step.index step.offset step.found 0 (state.erase "OPTARG")
      match step.complaint with
      | some text => state.say (text ++ "\n") settle
      | none => settle state
  | _ => refuse outcomes "Usage: getopts optstring var [arg...]" state

end PipeShell.Script.Builtin
