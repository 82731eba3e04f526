import PipeShell.Script.Builtin.Basic

/-! # Signals in scripts

Commands that send signals and that decide what to do about them. -/

set_option autoImplicit false

namespace PipeShell.Script.Builtin

open PipeShell.System

def signalCount : Nat := 65

def signalName (number : Nat) : String :=
  if number = 0 then "EXIT"
  else if number = 16 then "16"
  else
    match signalNames.lookup number with
    | some name => String.ofList (name.toList.drop 3)
    | none =>
      if number < 34 then toString number
      else if number = 34 then "RTMIN"
      else if number = 64 then "RTMAX"
      else if number < 50 then "RTMIN+" ++ toString (number - 34)
      else "RTMAX-" ++ toString (64 - number)

/-- The number of a signal by its number, or by its name if it is not below
`least`. Letters count in either case. -/
def signal? (least : Nat) (word : String) : Option Nat :=
  match Utility.number? word with
  | some number => if number < signalCount then some number else none
  | none => ((List.range signalCount).drop least).find? fun number => signalName number == word.toUpper

def killUsage : String :=
  "Usage: kill [-s sigspec | -signum | -sigspec] [pid | job]... or\nkill -l [exitstatus]"

inductive KillRequest where
  | list (words : List String)
  | send (signal : Nat) (targets : List String)
  deriving DecidableEq, Repr

def readKill (words : List String) : Except String KillRequest :=
  let send (signal : Nat) (targets : List String) : Except String KillRequest :=
    if targets.isEmpty then .error killUsage else .ok (.send signal targets)
  match words with
  | [] => .error killUsage
  | word :: rest =>
    match word.toList with
    | '-' :: name =>
      match signal? 1 (String.ofList name) with
      | some number => send number rest
      | none => do
        let (given, rest) ← readOptions ['l'] ['s'] (word.length + 2 * words.length + 2) words []
        let signal ← given.foldlM (fun (signal : Option Nat) (letter, name) =>
          if letter != 's' then .ok signal
          else
            match signal? 1 name with
            | some number => .ok (some number)
            | none => .error ("invalid signal number or name: " ++ name)) none
        if given.any (·.1 == 'l') then (if signal.isSome then .error killUsage else .ok (.list rest))
        else send (signal.getD 15) rest
    | _ => send 15 words

def listSignals (outcomes : Outcomes) (words : List String) (state : State) : Program :=
  match words with
  | [] =>
    printText outcomes ("0\n" ++ String.join (((List.range signalCount).drop 1).map fun n => signalName n ++ "\n")) 0 state
  | word :: _ =>
    match number word with
    | .error text => refuse outcomes text state
    | .ok status =>
      let signal := if 128 < status then status - 128 else status
      if 0 < signal && signal < signalCount then printText outcomes (signalName signal ++ "\n") 0 state
      else refuse outcomes ("invalid signal number or exit status: " ++ word) state

/-- Sends a signal to processes, one after the other. A job cannot be reached as
such. -/
def sendSignal (outcomes : Outcomes) (signal : Nat) : List String → Nat → State → Program
  | [], status, state => done outcomes status state
  | word :: rest, status, state =>
    let missing : Program :=
      state.complain "No such process\n" fun state => sendSignal outcomes signal rest 1 state
    if word.toList.head? == some '%' then
      match state.findJob (some word) with
      | .ok _ => missing
      | .error text => refuse outcomes text state
    else
      match number word with
      | .error text => refuse outcomes text state
      | .ok pid =>
        .signal pid signal fun found => if found then sendSignal outcomes signal rest status state else missing

def kill : Builtin := fun _ outcomes words state =>
  match readKill words with
  | .error text => refuse outcomes text state
  | .ok (.list words) => listSignals outcomes words state
  | .ok (.send signal targets) => sendSignal outcomes signal targets 0 state

def planFor (action : Option String) : Plan :=
  match action with
  | none => .usual
  | some text => if text.isEmpty then .ignored else .noted

/-- Gives signals an action, or takes it away. A signal that is ignored from the
beginning remains so. -/
def setActions (context : Context) (outcomes : Outcomes) (action : Option String) : List String → State → Program
  | [], state => done outcomes 0 state
  | name :: names, state =>
    match signal? 0 name with
    | none => state.say ("trap: " ++ name ++ ": bad trap\n") (done outcomes 1)
    | some number =>
      let others := state.traps.filter (·.1 != number)
      let state := { state with traps := action.elim others fun action => (number, action) :: others }
      if number = 0 || context.deaf.contains number then setActions context outcomes action names state
      else
        Program.hold (Holdings.setPlan · number (planFor action)) fun _ =>
          setActions context outcomes action names state

/-- Decides what to do when signals arrive: nothing for an empty text, the usual
thing for `-` or without a text. -/
def trap : Builtin := fun context outcomes words state =>
  withOptions [] [] outcomes words state fun _ words =>
    match words with
    | [] =>
      let sorted := state.traps.mergeSort fun a b => a.1 ≤ b.1
      printText outcomes (String.join (sorted.map fun (number, action) =>
        "trap -- " ++ shellQuoted action ++ " " ++ signalName number ++ "\n")) 0 state
    | first :: rest =>
      let bare := rest.isEmpty || (Utility.number? first).any (· < signalCount)
      let action := if bare || first == "-" then none else some first
      setActions context outcomes action (if bare then words else rest) state

end PipeShell.Script.Builtin
