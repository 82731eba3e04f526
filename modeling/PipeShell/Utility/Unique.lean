import PipeShell.Utility.Basic
import PipeShell.Utility.Sort.Key

/-! # Dropping repeated lines

Equal lines that follow one another are a group. Of every group one line is passed on,
or all of them, or none. -/

set_option autoImplicit false

namespace PipeShell.Utility

open PipeShell.System

structure UniqueStyle where
  fields : Nat := 0
  bytes : Nat := 0
  width : Option Nat := none
  folded : Bool := false

def UniqueStyle.key (style : UniqueStyle) (line : Bytes) : Bytes :=
  let rest := (dropFields none style.fields line).drop style.bytes
  let rest := style.width.elim rest rest.take
  if style.folded then foldCase rest else rest

def runsOf (key : Bytes → Bytes) (lines : List Bytes) : List (List Bytes) :=
  ((lines.foldl (fun (done : List (Bytes × List Bytes)) line =>
    let own := key line
    match done with
    | (front, run) :: rest => if front == own then (front, line :: run) :: rest else (own, [line]) :: done
    | [] => [(own, [line])]) []).map fun (_, run) => run.reverse).reverse

/-- Where an empty line marks the groups of equal lines. -/
structure GroupMarks where
  first : Bool := false
  between : Bool := false
  last : Bool := false
  deriving DecidableEq, Repr

def repeatChoices : Choices GroupMarks :=
  [("none", ⟨false, false, false⟩), ("prepend", ⟨true, true, false⟩), ("separate", ⟨false, true, false⟩)]

def groupChoices : Choices GroupMarks :=
  [("prepend", ⟨true, true, false⟩), ("append", ⟨false, true, true⟩), ("separate", ⟨false, true, false⟩),
    ("both", ⟨true, true, true⟩)]

def GroupMarks.join (marks : GroupMarks) (mark : UInt8) (groups : List (List Bytes)) : Bytes :=
  if groups.isEmpty then []
  else
    let sign (wanted : Bool) : Bytes := if wanted then [mark] else []
    sign marks.first ++ (List.intersperse (sign marks.between) (groups.map (unrecords mark))).flatten ++ sign marks.last

structure UniqueRequest where
  style : UniqueStyle := {}
  /-- The number of fields comes from digits among the options. -/
  hasDigits : Bool := false
  counting : Bool := false
  /-- Lines that are not repeated are passed on. -/
  singles : Bool := true
  /-- Of repeated lines the first is passed on. -/
  firsts : Bool := true
  /-- Of repeated lines all are passed on, with marks between the groups. -/
  repeats : Option GroupMarks := none
  groups : Option GroupMarks := none
  /-- One of the options is given that say which lines are passed on. -/
  isSelective : Bool := false
  mark : UInt8 := 10

def uniqueTable : OptionTable := {
  flags := ['c', 'd', 'u', 'i', 'D', 'z', '0', '1', '2', '3', '4', '5', '6', '7', '8', '9'], valued := ['f', 's', 'w', '^']
  optional := ['+', '=']
  long := [("count", 'c'), ("repeated", 'd'), ("all-repeated", '+'), ("group", '='), ("ignore-case", 'i'), ("unique", 'u'),
    ("skip-fields", 'f'), ("skip-chars", 's'), ("check-chars", 'w'), ("zero-terminated", 'z')]
  older := fun word _ =>
    match word.toList with
    | '+' :: digits => if (number? (String.ofList digits)).isSome then some ('^', String.ofList digits, false) else none
    | _ => none }

def readUniqueCount (what word : String) : Except Refusal Nat :=
  match QuantityRule.read { complaint := "" } word with
  | .ok count => .ok count.toNat
  | .error .malformed => .error { message := word ++ ": invalid number of " ++ what, hinted := false }
  | .error _ => .ok largestCount.toNat

namespace UniqueRequest

def marked (choices : Choices GroupMarks) (option value : String) (usual : GroupMarks)
    (change : GroupMarks → UniqueRequest) : Except Refusal UniqueRequest :=
  if value.isEmpty then .ok (change usual)
  else
    match choices.refusal? option value with
    | some refusal => .error refusal
    | none => .ok (change ((choices.choose value).toOption.getD usual))

def adopt (request : UniqueRequest) (letter : Char) (value : String) : Except Refusal UniqueRequest :=
  let style := request.style
  let selective := { request with isSelective := true }
  match letter with
  | 'c' => .ok { selective with counting := true }
  | 'd' => .ok { selective with singles := false }
  | 'u' => .ok { selective with firsts := false }
  | 'D' => .ok { selective with singles := false, repeats := some {} }
  | '+' =>
    marked repeatChoices "--all-repeated" value {} fun marks => { selective with singles := false, repeats := some marks }
  | '=' =>
    marked groupChoices "--group" value ⟨false, true, false⟩ fun marks => { request with groups := some marks }
  | 'f' => do
    let fields ← readUniqueCount "fields to skip" value
    return { request with style := { style with fields }, hasDigits := false }
  | 's' => return { request with style := { style with bytes := ← readUniqueCount "bytes to skip" value } }
  | '^' => return { request with style := { style with bytes := (number? value).getD 0 } }
  | 'w' => return { request with style := { style with width := some (← readUniqueCount "bytes to compare" value) } }
  | 'i' => .ok { request with style := { style with folded := true } }
  | 'z' => .ok { request with mark := 0 }
  | digit =>
    if digit.isDigit then
      let before := if request.hasDigits then style.fields else 0
      .ok { request with style := { style with fields := before * 10 + (digit.toNat - '0'.toNat) }, hasDigits := true }
    else .ok request

def present (request : UniqueRequest) (data : Bytes) : Bytes :=
  let runs := runsOf request.style.key (recordsOf request.mark data)
  match request.groups, request.repeats with
  | some marks, _ => marks.join request.mark runs
  | none, some marks =>
    let chosen := (runs.filter fun run => 1 < run.length).map fun run => if request.firsts then run else run.dropLast
    marks.join request.mark chosen
  | none, none =>
    let runs := runs.filter fun run => if run.length = 1 then request.singles else request.firsts
    let dress (run : List Bytes) : Bytes :=
      (if request.counting then rawBytes (padLeft 7 (toString run.length) ++ " ") else []) ++ run.headD []
    unrecords request.mark (runs.map dress)

end UniqueRequest

def unique : Utility := fun invocation =>
  withRequest uniqueTable invocation 1 ({} : UniqueRequest) UniqueRequest.adopt fun request operands =>
    let path := operands.headD "-"
    let go (source : Source) (deliver : Bytes → Program) : Program :=
      source.readRest fun data failure =>
        match failure with
        | some e => fail invocation ("error reading " ++ shownPath path ++ ": " ++ e.text)
        | none => deliver (request.present data)
    match operands with
    | _ :: _ :: extra :: _ => refuse invocation ("extra operand " ++ shown extra)
    | operands =>
      if request.groups.isSome && request.isSelective then
        refuse invocation "--group is mutually exclusive with -c/-d/-D/-u"
      else if request.repeats.isSome && request.counting then
        refuse invocation "printing all duplicated lines and repeat counts is meaningless"
      else
        openOperand invocation path (fun text => fail invocation (pathText path ++ ": " ++ text)) fun opened =>
          match operands with
          | [_, path] =>
            if path == "-" then go opened (emitAll invocation)
            else
              let openTarget (files : FileSystem) : Except Failure (FileSystem × OpenFile) :=
                files.openWrite invocation.viewer .truncate path
              .files (fun files => ((openTarget files).map (·.1)).toOption.getD files) fun files =>
                match openTarget files with
                | .error failure => fail invocation (pathText path ++ ": " ++ reason failure)
                | .ok (_, target) =>
                  go opened fun data =>
                    (Outlet.ofOpened target).write data fun _ failure =>
                      match failure with
                      | none => .exitWith 0
                      | some e => fail invocation ("write error: " ++ e.text)
          | _ => go opened (emitAll invocation)

end PipeShell.Utility
