import PipeShell.Script.Evaluation
import PipeShell.Script.Options

/-! # The command interpreter

The program that carries out scripts: the text of a command, a file, or its
input. -/

set_option autoImplicit false

namespace PipeShell.Script

open PipeShell.System

def scriptDescriptor : Nat := Holdings.firstPrivate

def interpretFile (invocation : Invocation) (path : String) (run : ScriptSource → Program)
    (refuse : String → Program) : Program :=
  let run (_ : Unit) : Program := run (.descriptor scriptDescriptor)
  .look fun files =>
    match files.openRead invocation.viewer path with
    | .ok file =>
      match Utility.Source.ofOpened file with
      | .opened file => .attach scriptDescriptor file run
      | .descriptor number =>
        Program.hold (fun holdings => holdings.connect scriptDescriptor (holdings.port? number)) run
    | .error failure => refuse (openingMessage .input path failure)

def interpret (start : Starter) (find : Option String → Viewer → String → FileSystem → Except Errno String) :
    Utility := fun invocation =>
  .adjust id fun holdings =>
  let deaf := (holdings.plans.filter (·.2 == .ignored)).map (·.1)
  let context : Context := {
    start, find, pid := invocation.pid, parent := invocation.parent, own := invocation.pid, above := invocation.parent
    deaf }
  let refuse (text : String) : Program :=
    Program.complain (invocation.name ++ ": 0: " ++ text ++ "\n") fun _ => .exitWith 2
  match Options.read true (invocation.arguments.length + 1) { set := [], words := invocation.arguments } with
  | .error text => refuse text
  | .ok given =>
    .look fun files =>
      let options := if given.set.contains 'i' then Options.switch 'm' true given.set else given.set
      let settings := if given.set.contains 'i' then [ScriptSource.setting "ENV"] else []
      let run (name : String) (positional : List String) (options : List Char) (sources : List ScriptSource) : Program :=
        let state := { State.initial context name positional invocation.environment invocation.viewer files with options }
        State.withoutTerminal context { state with line := 0 } fun state =>
          runScripts context (settings ++ sources) { state with line := 1 }
      let announce (next : Unit → Program) : Program :=
        match given.shown with
        | none => next ()
        | some readable =>
          Program.put (rawBytes (Options.describe readable (Options.names.map (·.2)))) next
      announce fun _ =>
        match given.command, given.words with
        | true, [] => refuse "-c requires an argument"
        | true, source :: words =>
          run (words.headD invocation.name) words.tail options
            (if options.contains 's' then [.text source false, .descriptor 0] else [.text source true])
        | false, [] => run invocation.name [] (Options.switch 's' true options) [.descriptor 0]
        | false, path :: positional =>
          if options.contains 's' then run invocation.name (path :: positional) options [.descriptor 0]
          else interpretFile invocation path (fun source => run path positional options [source]) refuse

end PipeShell.Script
