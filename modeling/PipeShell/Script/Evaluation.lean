import PipeShell.Script.Builtin.Describe
import PipeShell.Script.Builtin.Directory
import PipeShell.Script.Builtin.Jobs
import PipeShell.Script.Builtin.Printing
import PipeShell.Script.Builtin.Signals
import PipeShell.Script.Builtin.Variables
import PipeShell.Script.Exits
import PipeShell.Script.Redirection

/-! # Carrying out scripts

The behaviour of a command of a script as a program. Every command is told how
to go on afterwards. Simple commands that are no built-ins are programs of the
system, for which the process starts a copy of itself; the last one of a script
takes the place of the script. A part of a script that runs apart from the rest
is carried out by a copy of the process too. -/

set_option autoImplicit false

/-! ## The built-in commands -/

namespace PipeShell.Script.Builtin

/-- The built-in commands that neither run other commands nor change the flow of a
script, by name. -/
def catalog : List (String × Builtin) :=
  [(":", fun _ outcomes _ => done outcomes 0), ("[", test), ("alias", giveAlias), ("bg", resume), ("cd", changeDirectory),
    ("chdir", changeDirectory), ("echo", echo), ("export", expose), ("false", fun _ outcomes _ => done outcomes 1),
    ("fg", resume), ("getopts", readOption), ("hash", hash), ("jobs", showJobs), ("kill", kill), ("local", makeLocal),
    ("printf", printf), ("pwd", printDirectory), ("read", read), ("readonly", protect), ("set", configure),
    ("shift", shift), ("test", test),
    ("times", fun _ outcomes _ => printText outcomes "0m0.000000s 0m0.000000s\n0m0.000000s 0m0.000000s\n" 0),
    ("trap", trap), ("true", fun _ outcomes _ => done outcomes 0), ("type", describe), ("ulimit", limit),
    ("umask", umask), ("unalias", takeAlias), ("unset", remove), ("wait", wait)]

end PipeShell.Script.Builtin

/-! ## Commands -/

namespace PipeShell.Script

open PipeShell.System

def assigns (state : State) (words : List String) : Bool :=
  let names := words.dropWhile (· == "command")
  match names with
  | name :: _ =>
    ["alias", "export", "local", "readonly"].contains name && (state.functions.lookup name).isNone
  | [] => false

/-- A command behind the word `command` and its options, and whether programs are
looked for in the usual places; nothing if no command follows. -/
def behindPrefix : Bool → List String → Option (Bool × List String)
  | usual, word :: rest =>
    match word.toList with
    | ['-', '-'] => if rest.isEmpty then none else some (usual, rest)
    | '-' :: letter :: letters =>
      if (letter :: letters).all (· == 'p') then behindPrefix true rest else none
    | _ => some (usual, word :: rest)
  | _, [] => none

structure Target where
  words : List String
  /-- Whether it is a part of the language, so that a failure ends the script. -/
  special : Bool := false
  bare : Bool := false
  /-- Whether programs are looked for in the usual places. -/
  usual : Bool := false

/-- How the words of a simple command are carried out, at most `bound` prefixes
deep. -/
def Target.ofWords (state : State) : Nat → Target → Target
  | 0, target => target
  | bound + 1, target =>
    match target.words with
    | "command" :: rest =>
      if !target.bare && (state.functions.lookup "command").isSome then target
      else
        match behindPrefix target.usual rest with
        | some (usual, words) => ofWords state bound { target with words, bare := true, usual, special := false }
        | none => target
    | name :: _ =>
      if target.bare then target
      else { target with special := specialNames.contains name && (state.functions.lookup name).isNone }
    | [] => target

/-- The way in which a script calls a program. A file that is no program is taken
for a script. -/
def State.callOf (context : Context) (state : State) (name path : String) (arguments : List String) : Call := {
  name, path := some path, arguments, scripted := true, environment := state.environment
  viewer := state.viewer, pid := context.own, parent := context.above }

def usualPath : String := "/usr/local/sbin:/usr/local/bin:/usr/sbin:/usr/bin:/sbin:/bin"

def State.restored (saved : List (String × Option Variable)) (state : State) : State :=
  saved.foldl (fun (state : State) (name, old) =>
    if name == "-" then
      { state with options := ((old.bind Variable.value).getD "").toList }
    else
      match old with
      | some held => state.put name held
      | none => state.erase name) state

/-- Goes on with the text of a variable in which everything is replaced that is replaced in
texts of a script. -/
def expandSetting (context : Context) (hooks : Hooks) (bound : Nat) (name : String) (state : State)
    (next : State → String → Program) : Program :=
  let quiet : State := { state with options := state.options.filter (· != 'x') }
  expandText context hooks bound .nowhere (textWord ((state.lookup? name).getD "")) quiet fun after marked =>
    next { after with options := state.options, status := state.status, substituted := state.substituted } (plainText marked)

/-- Says what is carried out, on the error stream that the script had before
redirections. -/
def trace (context : Context) (hooks : Hooks) (bound : Nat) (saved : Saved) (words : List String) (state : State)
    (next : Next) : Program :=
  if !state.has 'x' then next state
  else
    expandSetting context hooks bound "PS4" state fun state front =>
      let descriptor := ((saved.lookup Program.errorDescriptor).getD none).getD Program.errorDescriptor
      .write descriptor (rawBytes (front ++ String.intercalate " " words ++ "\n")) fun _ => next state

def State.echo (text : String) (state : State) (next : Next) : Program :=
  if state.has 'v' && !text.isEmpty then state.say text next else next state

def completeLines (data : Bytes) : Bytes × Bytes :=
  let rest := (data.reverse.takeWhile (· != 10)).reverse
  (data.take (data.length - rest.length), rest)

def scriptText (data : Bytes) : String := rawText (data.filter (· != 0))

def State.scanned (scanner : Scanner) (state : State) : State :=
  { state with
    documents := scanner.documents ++ state.documents
    nextDocument := scanner.nextDocument
    readLine := scanner.line
    inputLine := if scanner.ofInput then scanner.line else state.inputLine }

/-- The exits of a text inside of another one, of which no more is read meanwhile. -/
def Exits.ofInnerText (exits : Exits) (outside : State) : Exits :=
  exits.within (changing fun state => { state with readLine := outside.readLine })

def sourcePath? (files : FileSystem) (state : State) (name : String) : Option String :=
  if name.toList.contains '/' then some name
  else
    let directories := ((state.lookup? "PATH").map (·.splitOn ":")).getD []
    (directories.map fun directory => if directory.isEmpty then name else directory ++ "/" ++ name).find? fun path =>
      match files.stat state.viewer path with
      | .ok (_, node) => node.isFile && (files.attributesOf node).allows state.viewer.user .read
      | .error _ => false

def aloof (holdings : Holdings) : Holdings := (holdings.setPlan 2 .ignored).setPlan 3 .ignored

def becomeProgram (context : Context) (name path : String) (arguments : List String)
    (failed : Failure → Next) (state : State) : Program :=
  .look fun files =>
    match context.start (state.callOf context name path arguments) files with
    | .ok program => program.become
    | .error failure => failed failure state

def statusOperand (missing : Nat) (arguments : List String) : Except String Nat :=
  match arguments with
  | [] => .ok missing
  | word :: _ => Builtin.number word

mutual

/-- The program of a command, at most `bound` commands deep. `tail` tells that
nothing follows the command, and `tested` that its status is looked at. -/
def evaluate (context : Context) : Nat → Command → Bool → Bool → Exits → State → Program
  | 0, _, _, _, exits, state => exits.next state
  | bound + 1, command, tail, tested, exits, state =>
    if state.has 'n' then exits.next state
    else
      let hooks : Hooks := { substitute := substitute context bound tested, fail := exits.fail }
      match command with
      | .nothing => exits.next (state.withStatus 0)
      | .sequence first second =>
        evaluate context bound first false tested
          { exits with next := fun state => evaluate context bound second tail tested exits state } state
      | .both first second =>
        evaluate context bound first false true
          { exits with next := fun state =>
              if state.status = 0 then evaluate context bound second tail tested exits state else exits.next state } state
      | .either first second =>
        evaluate context bound first false true
          { exits with next := fun state =>
              if state.status = 0 then exits.next state else evaluate context bound second tail tested exits state } state
      | .negated body =>
        evaluate context bound body false true
          { exits with next := fun state => exits.next (state.withStatus (if state.status = 0 then 1 else 0)) } state
      | .conditional condition positive negative =>
        evaluate context bound condition false true
          { exits with next := fun state =>
              if state.status = 0 then evaluate context bound positive tail tested exits state
              else evaluate context bound negative tail tested exits state } state
      | .loop untilSuccess condition body => runLoop context bound untilSuccess condition body tested exits 0 state
      | .each line name words body =>
        expandAll context hooks bound (fun _ => false) words { state with line } [] fun state fields =>
          runEach context bound name fields body tested exits (state.withStatus 0)
      | .choose line word cases =>
        expandText context hooks bound .atStart word { state with line } fun state marked =>
          runCases context bound (marked.map (·.1)) cases tail tested exits state
      | .define _ name body =>
        exits.next (State.withStatus
          { state with functions := (name, body) :: state.functions.filter (·.1 != name) } 0)
      | .pipe stages =>
        runStages context bound false none [] stages tested (fun pids state =>
          awaitAll pids state (checked context bound tested exits)) state.claim.1
      | .background (.pipe stages) =>
        runStages context bound true none [] stages tested (fun pids state =>
          exits.next ((state.send pids).withStatus 0)) state
      | .background body =>
        runStages context bound true none [] [body] tested (fun pids state =>
          exits.next ((state.send pids).withStatus 0)) state
      | .subshell line body redirects =>
        expandTargets context hooks bound redirects { state with line } [] fun state openings =>
          let inside (context : Context) (state : State) : Program :=
            let exits := Exits.ofProcess (close context bound)
            openAll context { hooks with fail := exits.fail } bound false (fun _ => exits.fail)
              (fun _ => evaluate context bound body true tested exits) [] openings state
          if tail && !state.hasActions then inside context state.copied
          else
            forkCopy context state id inside fun pid =>
              awaitAll [pid] state.claim.1 (checked context bound tested exits)
      | .redirected line body redirects =>
        expandTargets context hooks bound redirects { state with line } [] fun state openings =>
          let restore (saved : Saved) (next : Next) : Next := fun state => restorePorts saved fun _ => next state
          openAll context hooks bound true
            (fun saved => restore saved fun state => exits.next (state.withStatus 2))
            (fun saved => evaluate context bound body false tested (exits.within (restore saved))) [] openings state
      | .simple line assignments words redirects =>
        expandAll context hooks bound (assigns state) words { state with line, substituted := none } []
          fun state fields =>
            runSimple context bound fields assignments redirects tail tested exits hooks state

/-- Goes on behind a command: first with what signals ask for, then unless the
script ends with its first failure. -/
def checked (context : Context) : Nat → Bool → Exits → State → Program
  | 0, _, exits, state => exits.next state
  | bound + 1, tested, exits, state =>
    let next (state : State) : Program :=
      if state.has 'e' && !tested && state.status != 0 then exits.quit state.status state else exits.next state
    if state.hasActions then
      .noted fun signals => attend context bound { exits with next } { state with pending := state.pending ++ signals }
    else next state

def attend (context : Context) : Nat → Exits → State → Program
  | 0, exits, state => exits.next state
  | bound + 1, exits, state =>
    match state.pending with
    | [] => exits.next state
    | number :: rest =>
      let state := { state with pending := rest }
      match state.traps.lookup number with
      | none => attend context bound exits state
      | some action =>
        let next (after : State) : Program :=
          attend context bound exits { after with status := state.status, held := state.held }
        runText context bound (Scanner.ofText action state.nextDocument) false false false
          (Exits.ofInnerText { exits with next } state) { state with held := some state.status }

/-- Ends a process with a status: first with what is to be done at its end. -/
def close (context : Context) : Nat → Nat → State → Program
  | 0, status, _ => .exitWith status.toUInt8
  | bound + 1, status, state =>
    match state.traps.lookup 0 with
    | none => .exitWith status.toUInt8
    | some action =>
      let finish (status : Nat) (_ : State) : Program := .exitWith status.toUInt8
      runText context bound (Scanner.ofText action state.nextDocument) false false false
        { Exits.ofProcess finish with
          next := finish status
          back := finish status }
        { state with traps := state.traps.filter (·.1 != 0), held := some status, status }

/-- Carries out a command in a copy of the process, and goes on with what it
writes. -/
def substitute (context : Context) :
    Nat → Bool → Command → State → (State → Bytes → Program) → Program
  | 0, _, _, state, next => next state []
  | bound + 1, tested, body, state, next =>
    Program.withPipe fun reader writer =>
      forkCopy context state (fun holdings => (holdings.close [reader]).move writer Program.outputDescriptor)
        (fun context => evaluate context bound body true tested (Exits.ofProcess (close context bound)))
        fun pid =>
          Program.hold (Holdings.close · [writer]) fun _ =>
            Program.readAll reader fun data _ =>
              Program.hold (Holdings.close · [reader]) fun _ =>
                awaitAll [pid] state fun after =>
                  next { after with status := state.status, substituted := some after.status } data

/-- Starts the stages of a pipeline, each in a copy of the process, behind those
with the given numbers. The first of the stages to come reads from a pipe if there
is one before it; in the background, it has nothing to read otherwise. -/
def runStages (context : Context) : Nat → Bool → Option Nat → List Nat → List Command → Bool →
    (List Nat → Next) → State → Program
  | 0, _, _, _, _, _, next, state => next [] state
  | _ + 1, _, _, pids, [], _, next, state => next pids.reverse state
  | bound + 1, background, source, pids, stage :: rest, tested, next, state =>
    let input (holdings : Holdings) : Holdings :=
      match source with
      | some reader => holdings.move reader Program.inputDescriptor
      | none => holdings
    let start (change : Holdings → Holdings) (next : Nat → Program) : Program :=
      let change (holdings : Holdings) : Holdings :=
        if background then aloof (change (input holdings)) else change (input holdings)
      let body (context : Context) (state : State) : Program :=
        let run (_ : Unit) : Program :=
          evaluate context bound stage true tested (Exits.ofProcess (close context bound)) state
        if background && pids.isEmpty then .attach Program.inputDescriptor .null run else run ()
      forkCopy context state change body next
    if rest.isEmpty then
      start id fun pid =>
        Program.hold (Holdings.close · source.toList) fun _ => next (pid :: pids).reverse state
    else
      Program.withPipe fun reader writer =>
        start (fun holdings => (holdings.close [reader]).move writer Program.outputDescriptor) fun pid =>
          Program.hold (Holdings.close · (writer :: source.toList)) fun _ =>
            runStages context bound background (some reader) (pid :: pids) rest tested next state

/-- Carries out the commands of a text, one line after the other. `ran` tells
whether there was one before. -/
def runText (context : Context) : Nat → Scanner → Bool → Bool → Bool → Exits → State → Program
  | 0, _, _, _, _, exits, state => exits.next state
  | bound + 1, scanner, ran, tail, tested, exits, state =>
    match Scanner.nextCommand { scanner with aliases := state.aliases, nextDocument := state.nextDocument } with
    | .error e =>
      State.complain { state with line := e.line } ("Syntax error: " ++ e.message) fun state =>
        exits.fail (state.withStatus 2)
    | .ok (none, scanner) =>
      exits.next (let state := state.scanned scanner
        if ran then state else state.withStatus 0)
    | .ok (some command, scanner) =>
      let state := state.scanned scanner
      let scanner := { scanner with documents := [] }
      match command with
      | .nothing => runText context bound scanner ran tail tested exits state
      | command =>
        evaluate context bound command (tail && scanner.isDone) tested
          { exits with next := fun state => runText context bound scanner true tail tested exits state } state

def askFor (context : Context) : Nat → String → Nat → State → Next → Program
  | 0, _, _, state, next => next state
  | _ + 1, _, 0, state, next => next state
  | bound + 1, setting, count + 1, state, next =>
    if !state.has 'i' then next state
    else
      let hooks : Hooks := { substitute := substitute context bound false, fail := next }
      expandSetting context hooks bound setting state fun state text =>
        state.say text fun state => askFor context bound setting count state next

/-- Carries out the commands that are read from a descriptor, of which `scanner` has
the lines that are known and `unfinished` the beginning of the next one. -/
def runInput (context : Context) : Nat → Nat → Scanner → Bytes → Bool → Exits → State → Program
  | 0, _, _, _, _, exits, state => exits.next state
  | bound + 1, descriptor, scanner, unfinished, ran, exits, state =>
    askFor context bound "PS1" 1 state fun state => runKnown context bound descriptor scanner unfinished ran exits state

/-- Carries out the next command that is read from a descriptor, and those behind it. More
is read only when no command is complete. Behind an error that would end the script,
somebody who is asked for commands may go on, but what was known of them is lost. -/
def runKnown (context : Context) : Nat → Nat → Scanner → Bytes → Bool → Exits → State → Program
  | 0, _, _, _, _, exits, state => exits.next state
  | bound + 1, descriptor, scanner, unfinished, ran, exits, state =>
    let failAt (line : Nat) (state : State) : Program :=
      if state.has 'i' then
        runInput context bound descriptor { Scanner.ofText "" with line, ofInput := true } [] true exits state
      else exits.fail state
    match Scanner.completeCommand? { scanner with aliases := state.aliases, nextDocument := state.nextDocument } with
    | some (command, after) =>
      let text := String.ofList (scanner.rest.take (scanner.rest.length - after.rest.length))
      askFor context bound "PS2" (after.line - scanner.line - 1) state fun state =>
      State.echo text (state.scanned after) fun state =>
        let after := { after with documents := [] }
        match command with
        | .nothing => runInput context bound descriptor after unfinished ran exits state
        | command =>
          evaluate context bound command false false
            { exits with
              next := fun state => runInput context bound descriptor after unfinished true exits state
              fail := failAt after.line } state
    | none =>
      .read descriptor Scanner.blockSize fun answer =>
        let data := answer.toOption.getD []
        if data.isEmpty then
          let last := scanner.extend (scriptText unfinished).toList
          let finish (state : State) : Program :=
            if state.has 'i' then state.say "\n" exits.next else exits.next state
          State.echo (String.ofList last.rest) state fun state =>
            if last.rest.isEmpty then
              runText context bound last ran false false { exits with next := finish } state
            else
              let lines :=
                match Scanner.nextCommand { last with aliases := state.aliases } with
                | .ok _ => last.rest.count '\n'
                | .error e => e.line - last.line
              askFor context bound "PS2" lines state fun state =>
                runText context bound last ran false false
                  { exits with
                    next := fun state => askFor context bound "PS1" 1 state finish
                    fail := failAt last.line } state
        else
          let (lines, rest) := completeLines (unfinished ++ data)
          runKnown context bound descriptor (scanner.extend (scriptText lines).toList) rest ran exits state

def runLoop (context : Context) : Nat → Bool → Command → Command → Bool → Exits → Nat → State → Program
  | 0, _, _, _, _, exits, _, state => exits.next state
  | bound + 1, untilSuccess, condition, body, tested, exits, last, state =>
    let leave (again : Bool) (count : Nat) (state : State) : Program :=
      if count ≤ 1 then
        if again then runLoop context bound untilSuccess condition body tested exits 0 (state.withStatus 0)
        else exits.next (state.withStatus 0)
      else exits.leave again (count - 1) state
    let loops := exits.loops + 1
    let continueWith (last : Nat) (state : State) : Program :=
      runLoop context bound untilSuccess condition body tested exits last state
    Program.pause fun _ =>
      evaluate context bound condition false true
        { exits with
          leave
          loops
          next := fun state =>
            if (state.status = 0) != untilSuccess then
              evaluate context bound body false tested
                { exits with leave, loops, next := fun state => continueWith state.status state } state
            else exits.next (state.withStatus last) } state

def runEach (context : Context) : Nat → String → List String → Command → Bool → Exits → State → Program
  | 0, _, _, _, _, exits, state => exits.next state
  | _ + 1, _, [], _, _, exits, state => exits.next state
  | bound + 1, name, field :: rest, body, tested, exits, state =>
    let proceed (state : State) : Program := runEach context bound name rest body tested exits state
    match state.assign? name field with
    | none => state.complain (name ++ ": is read only") exits.fail
    | some state =>
      evaluate context bound body false tested
        { exits with
          loops := exits.loops + 1
          leave := fun again count state =>
            if count ≤ 1 then (if again then proceed (state.withStatus 0) else exits.next (state.withStatus 0))
            else exits.leave again (count - 1) state
          next := proceed } state

def runCases (context : Context) : Nat → Bytes → List (List Word × Command) → Bool → Bool → Exits →
    State → Program
  | 0, _, _, _, _, exits, state => exits.next state
  | _ + 1, _, [], _, _, exits, state => exits.next (state.withStatus 0)
  | bound + 1, text, ([], _) :: rest, tail, tested, exits, state =>
    runCases context bound text rest tail tested exits state
  | bound + 1, text, (pattern :: patterns, body) :: rest, tail, tested, exits, state =>
    let hooks : Hooks := { substitute := substitute context bound tested, fail := exits.fail }
    expandText context hooks bound .atStart pattern state fun state marked =>
      if covers (patternItems marked) text then evaluate context bound body tail tested exits state
      else runCases context bound text ((patterns, body) :: rest) tail tested exits state

/-- Carries out a simple command whose words are known: redirections first, then
assignments, then the command itself. -/
def runSimple (context : Context) : Nat → List String → List (String × Word) → List Redirect → Bool → Bool →
    Exits → Hooks → State → Program
  | 0, _, _, _, _, _, exits, _, state => exits.next state
  | bound + 1, fields, assignments, redirects, tail, tested, exits, hooks, state =>
    let target := Target.ofWords state (fields.length + 1) { words := fields }
    let lasting := target.special || target.words.isEmpty
    let permanent := (target.words.head? == some "exec") && (target.bare || target.special)
    expandTargets context hooks bound redirects state [] fun state openings =>
      let restore (saved : Saved) (next : Next) : Next := fun state => restorePorts saved fun _ => next state
      openAll context hooks bound (!permanent)
        (fun saved => restore saved fun state =>
          let state := state.withStatus 2
          if target.special then exits.fail state else checked context bound tested exits state)
        (fun saved state =>
          let exported := !lasting || (permanent && 1 < target.words.length)
          assignEach context bound assignments exported [] []
            { hooks with fail := restore saved exits.fail }
            (fun replaced texts state =>
              let tidy (next : Next) : Next :=
                if lasting then restore saved next else restore saved (changing (State.restored replaced) next)
              trace context hooks bound saved (texts ++ fields) state fun state =>
                match target.words with
                | [] => tidy (checked context bound tested exits) (state.withStatus (state.substituted.getD 0))
                | name :: arguments =>
                  runNamed context bound name arguments target tail tested
                    { exits.within tidy with next := tidy (checked context bound tested exits) } state)
            state)
        [] openings state

def assignEach (context : Context) : Nat → List (String × Word) → Bool → List (String × Option Variable) →
    List String → Hooks → (List (String × Option Variable) → List String → Next) → State → Program
  | 0, _, _, saved, texts, _, next, state => next saved texts.reverse state
  | _ + 1, [], _, saved, texts, _, next, state => next saved texts.reverse state
  | bound + 1, (name, word) :: rest, exported, saved, texts, hooks, next, state =>
    expandText context hooks bound .everywhere word state fun state marked =>
      let value := plainText marked
      match state.assign? name value with
      | none => state.complain (name ++ ": is read only") fun state => hooks.fail (state.withStatus 2)
      | some assigned =>
        let assigned :=
          match exported, assigned.binding? name with
          | true, some held => assigned.put name { held with exported := true }
          | _, _ => assigned
        assignEach context bound rest exported ((name, state.binding? name) :: saved)
          ((name ++ "=" ++ value) :: texts) hooks next assigned

/-- Carries out a command by its name: a function, a built-in command, or a
program of the system. -/
def runNamed (context : Context) : Nat → String → List String → Target → Bool → Bool → Exits → State → Program
  | 0, _, _, _, _, _, exits, state => exits.next state
  | bound + 1, name, arguments, target, tail, tested, exits, state =>
    match (if target.bare then none else state.functions.lookup name) with
    | some body =>
      let restore (after : State) : State :=
        let after := after.restored (after.frames.headD [])
        { after with
          positional := state.positional
          frames := state.frames
          optionIndex := state.optionIndex
          optionOffset := state.optionOffset }
      let inner := exits.within (changing restore)
      evaluate context bound body false tested { inner with loops := 0, back := inner.next }
        { state with positional := arguments, frames := [] :: state.frames, optionIndex := 1, optionOffset := none }
    | none =>
      if Builtin.isBuiltin name then
        let outer := state.command
        let inner := exits.within (changing fun after => { after with command := outer })
        let fail : Next := if target.special then inner.fail else inner.next
        let outcomes : Outcomes := { next := inner.next, fail }
        let state := { state with command := some name }
        match Builtin.catalog.lookup name with
        | some builtin => builtin context outcomes arguments state
        | none =>
          let failed : Next := if target.special then inner.fail else fun state => inner.next (state.withStatus 2)
          runFlow context bound name arguments tested { inner with fail := failed } state
      else
        let failed (quit : Nat → Next) (failure : Failure) (state : State) : Program :=
          let (text, status) := launchFailure name failure
          state.complain text (quit status)
        let launch (path : String) (state : State) : Program :=
          if tail && !state.hasActions then
            becomeProgram context name path arguments (failed exits.quit) state
          else
            forkCopy context state id (fun context =>
                becomeProgram context name path arguments (failed fun status _ => .exitWith status.toUInt8))
              fun pid => awaitAll [pid] state.claim.1 exits.next
        if name.toList.contains '/' then launch name state
        else
          .look fun files =>
            match context.find (if target.usual then some usualPath else state.lookup? "PATH") state.viewer name files with
            | .ok path => launch path (Builtin.remember name (.program path false) state)
            | .error e =>
              let text := if e = .noEntry || e = .notDirectory then "not found" else e.text
              state.complain (name ++ ": " ++ text) fun state => exits.next (state.withStatus 127)

/-- Carries out a built-in command that runs other commands or changes the flow of
the script. -/
def runFlow (context : Context) : Nat → String → List String → Bool → Exits → State → Program
  | 0, _, _, _, exits, state => exits.next state
  | bound + 1, name, arguments, tested, exits, state =>
    let refuse (text : String) (state : State) : Program :=
      state.complain text fun state => exits.fail (state.withStatus 2)
    let leave (again : Bool) : Program :=
      match Builtin.number (arguments.headD "1") with
      | .error text => refuse text state
      | .ok 0 => refuse ("Illegal number: " ++ arguments.headD "") state
      | .ok count =>
        if exits.loops = 0 then exits.next (state.withStatus 0)
        else exits.leave again (min exits.loops count) (state.withStatus 0)
    match name with
    | "exit" =>
      match statusOperand (state.held.getD state.status) arguments with
      | .ok status => exits.quit status state
      | .error text => refuse text state
    | "return" =>
      match statusOperand state.status arguments with
      | .ok status => exits.back (state.withStatus status)
      | .error text => refuse text state
    | "break" => leave false
    | "continue" => leave true
    | "eval" =>
      runText context bound (Scanner.ofText (String.intercalate " " arguments) state.nextDocument) false false tested
        (exits.ofInnerText state) state
    | "command" =>
      match Builtin.readOptions ['p', 'v', 'V'] [] (arguments.foldl (· + 1 + ·.length) 1) arguments [] with
      | .error text => refuse text state
      | .ok (given, words) =>
        match (given.filter (·.1 != 'p')).getLast? with
        | none => exits.next (state.withStatus 0)
        | some (letter, _) =>
          Builtin.describeOne (letter = 'V') context { next := exits.next, fail := exits.fail } words state
    | "exec" =>
      match arguments with
      | [] => exits.next (state.withStatus 0)
      | program :: arguments =>
        let failed (failure : Failure) (state : State) : Program :=
          let (text, status) := launchFailure program failure
          state.complain text (exits.quit status)
        if program.toList.contains '/' then becomeProgram context program program arguments failed state
        else
          .look fun files =>
            match context.find (state.lookup? "PATH") state.viewer program files with
            | .ok path => becomeProgram context program path arguments failed state
            | .error e => failed (.os e) state
    | "." =>
      match (if arguments.head? == some "--" then arguments.tail else arguments) with
      | [] => exits.next (state.withStatus 0)
      | name :: _ =>
        .look fun files =>
          match sourcePath? files state name with
          | none => refuse (name ++ ": not found") state
          | some path =>
            match fileText? files state.viewer path with
            | .error failure =>
              if failure = .os .isDirectory then exits.next (state.withStatus 0)
              else refuse (openingMessage .input path failure) state
            | .ok text =>
              runText context bound (Scanner.ofText text state.nextDocument) false false false
                (Exits.ofInnerText { exits with back := exits.next } state) { state with command := some path }
    | _ => exits.next (state.withStatus 0)

end

inductive ScriptSource where
  /-- A text; with `tail`, its last command takes the place of the script. -/
  | text (source : String) (tail : Bool)
  | descriptor (number : Nat)
  /-- The file whose path a variable has, if there is one. -/
  | setting (name : String)

/-- The program that carries out scripts one after the other. Whoever is asked for commands
goes on with the input behind an error. -/
def runScripts (context : Context) (sources : List ScriptSource) (state : State) : Program :=
  go (Exits.ofProcess (close context Program.lifetime)) sources state
where
  go (exits : Exits) : List ScriptSource → State → Program
    | [], state => exits.next state
    | source :: rest, state =>
      let inner := { exits with next := go exits rest }
      let read (number : Nat) (state : State) : Program :=
        runInput context Program.lifetime number { Scanner.ofText "" with ofInput := true } [] false inner state
      match source with
      | .text source tail =>
        let fail (state : State) : Program := if state.has 'i' then read Program.inputDescriptor state else exits.fail state
        runText context Program.lifetime (Scanner.ofText source) false (tail && rest.isEmpty) false { inner with fail } state
      | .descriptor number => read number state
      | .setting name =>
        let hooks : Hooks := { substitute := substitute context Program.lifetime false, fail := inner.next }
        expandSetting context hooks Program.lifetime name state fun state path =>
          .look fun files =>
            match fileText? files state.viewer path with
            | .ok text =>
              runText context Program.lifetime (Scanner.ofText text) false false false
                { inner with fail := inner.next, back := inner.next } state
            | .error _ => inner.next state

end PipeShell.Script
