import PipeShell.Utility.Basic

/-! # Utilities that copy

Programs that pass on what they read, whole or in part. -/

set_option autoImplicit false

namespace PipeShell.Utility

open PipeShell.System

/-- How the lines that are passed on are dressed up. -/
structure CatStyle where
  number : Bool := false
  /-- Number the lines that are not blank. -/
  numberText : Bool := false
  squeeze : Bool := false
  ends : Bool := false
  tabs : Bool := false
  /-- Show control characters and bytes above ASCII. -/
  controls : Bool := false
  deriving DecidableEq, Repr

namespace CatStyle

def plain : CatStyle := {}

def showByte (style : CatStyle) (b : UInt8) : Bytes :=
  let low (b : UInt8) : Bytes :=
    if b < 32 then [94, b + 64] else if b = 127 then [94, 63] else [b]
  if b = 9 then (if style.tabs then [94, 73] else [b])
  else if !style.controls then [b]
  else if b < 128 then low b
  else [77, 45] ++ low (b - 128)

def ofOptions (options : Options) : CatStyle where
  number := options.has 'n' && !options.has 'b'
  numberText := options.has 'b'
  squeeze := options.has 's'
  ends := options.has 'E' || options.has 'A' || options.has 'e'
  tabs := options.has 'T' || options.has 'A' || options.has 't'
  controls := options.has 'v' || options.has 'A' || options.has 'e' || options.has 't'

structure Position where
  /-- The number of the last numbered line. -/
  count : Nat := 0
  fresh : Bool := true
  blank : Bool := false
  /-- Whether a carriage return waits for what comes behind it. -/
  held : Bool := false

def showNext (style : CatStyle) (position : Position) (output : Bytes) (b : UInt8) : Position × Bytes :=
  let isBlank := position.fresh && !position.held && b = 10
  if isBlank && position.blank && style.squeeze then (position, output)
  else
    let numbered := position.fresh && (style.number || (style.numberText && !isBlank))
    let count := if numbered then position.count + 1 else position.count
    let output := if numbered then (rawBytes (padLeft 6 (toString count) ++ "\t")).reverse ++ output else output
    let held : Bytes := if position.held then (if b = 10 then [77, 94] else [13]) else []
    let output := held ++ output
    if b = 10 then (⟨count, true, isBlank, false⟩, 10 :: (if style.ends then 36 :: output else output))
    else if b = 13 && style.ends && !style.controls then (⟨count, false, false, true⟩, output)
    else (⟨count, false, false, false⟩, (style.showByte b).reverse ++ output)

def showAll (style : CatStyle) (position : Position) (data : Bytes) : Position × Bytes :=
  let (position, output) := data.foldl (fun (position, output) b => style.showNext position output b) (position, [])
  (position, output.reverse)

end CatStyle

/-- Whether reading on would never end, because what is read is also what is
written. -/
def feedsItself (files : FileSystem) (read written : OpenFile) : Bool :=
  match files.fileOf? read.node with
  | none => false
  | some file => read.node == written.node && read.offset < file.content.length

def Source.openFile (source : Source) (next : Option OpenFile → Program) : Program :=
  match source with
  | .opened file => next (some file)
  | .descriptor number => .inspect number fun found => next (found.bind (·.2))

def copyFiles {σ : Type} (invocation : Invocation) (dress : σ → Bytes → σ × Bytes) (finish : σ → UInt8 → Program)
    (state : σ) (failed : Bool) (orphaned : Bool) : List String → Program
  | [] =>
    if orphaned then
      warn invocation ("closing standard input: " ++ Errno.badDescriptor.text) fun _ => finish state 1
    else finish state (if failed then 1 else 0)
  | operand :: rest =>
    let refuse (orphaned : Bool) (state : σ) (text : String) : Program :=
      warn invocation (pathText operand ++ ": " ++ text) fun _ =>
        copyFiles invocation dress finish state true orphaned rest
    openOperand invocation operand (refuse orphaned state) fun source =>
      source.openFile fun read =>
        Source.openFile (.descriptor Program.outputDescriptor) fun written =>
          .look fun files =>
            let endless :=
              match read, written with
              | some read, some written => feedsItself files read written
              | _, _ => false
            if endless then refuse orphaned state "input file is output file"
            else
              let step (state : σ) (data : Bytes) (resume : σ → Program) : Program :=
                let (state, output) := dress state data
                if output.isEmpty then resume state
                else
                  .write Program.outputDescriptor output fun answer =>
                    match answer with
                    | none => resume state
                    | some e => fail invocation ("write error: " ++ e.text)
              let finishFile (state : σ) (failure : Option Errno) : Program :=
                match failure with
                | none => copyFiles invocation dress finish state failed orphaned rest
                | some e => refuse (orphaned || (operand == "-" && e = .badDescriptor)) state e.text
              source.readBlocks state step finishFile Program.lifetime

def cat : Utility := fun invocation =>
  let table : OptionTable := {
    flags := ['n', 'b', 's', 'E', 'T', 'A', 'v', 'e', 't', 'u']
    long := [("number", 'n'), ("number-nonblank", 'b'), ("squeeze-blank", 's'), ("show-ends", 'E'),
      ("show-tabs", 'T'), ("show-all", 'A'), ("show-nonprinting", 'v')] }
  withOptions table invocation 1 fun options =>
    let style := CatStyle.ofOptions options
    let operands := operandsOrInput options.operands
    .inspect Program.outputDescriptor fun found =>
    if found.isNone then fail invocation ("standard output: " ++ Errno.badDescriptor.text)
    else if style == .plain then copyFiles invocation (fun (_ : Unit) data => ((), data)) (fun _ => .exitWith) () false false operands
    else
      copyFiles invocation style.showAll
        (fun position code => emitAll invocation (if position.held then [13] else []) code) {} false false operands

inductive TeePolicy where
  /-- It is complained about, unless it is a pipe that nobody reads. -/
  | usual
  | told
  /-- The program ends, unless it is a pipe that nobody reads. -/
  | strict
  | strictest
  deriving DecidableEq, Repr

namespace TeePolicy

def choices : Choices TeePolicy :=
  [("warn", .told), ("warn-nopipe", .usual), ("exit", .strictest), ("exit-nopipe", .strict)]

def isStrict (policy : Option TeePolicy) : Bool := policy == some .strict || policy == some .strictest

def complains (policy : Option TeePolicy) (e : Errno) : Bool :=
  e != .brokenPipe || policy == some .told || policy == some .strictest

end TeePolicy

def teeBlock (invocation : Invocation) (policy : Option TeePolicy) (data : Bytes)
    (next : List (String × Outlet) → Bool → Program) (kept : List (String × Outlet)) (failed : Bool) :
    List (String × Outlet) → Program
  | [] => next kept.reverse failed
  | (name, outlet) :: rest =>
    outlet.write data fun outlet answer =>
      match answer with
      | none => teeBlock invocation policy data next ((name, outlet) :: kept) failed rest
      | some e =>
        if TeePolicy.complains policy e then
          warn invocation (pathText name ++ ": " ++ e.text) fun _ =>
            if TeePolicy.isStrict policy then .exitWith 1 else teeBlock invocation policy data next kept true rest
        else teeBlock invocation policy data next kept failed rest

def teeAll (invocation : Invocation) (policy : Option TeePolicy) (outlets : List (String × Outlet)) (failed : Bool) :
    Program :=
  let code (failed : Bool) : UInt8 := if failed then 1 else 0
  Program.readBlocks Program.inputDescriptor (outlets, failed) (fun (outlets, failed) data resume =>
      teeBlock invocation policy data (fun outlets failed =>
        if outlets.isEmpty then .exitWith (code failed) else resume (outlets, failed)) [] failed outlets)
    (fun (_, failed) failure =>
      match failure with
      | none => .exitWith (code failed)
      | some e => fail invocation ("read error: " ++ e.text)) Program.lifetime

def openOutlets (invocation : Invocation) (policy : Option TeePolicy) (mode : WriteMode)
    (opened : List (String × Outlet)) (failed : Bool) : List String → Program
  | [] => teeAll invocation policy opened.reverse failed
  | path :: rest =>
    let proceed (outlet : Outlet) : Program :=
      openOutlets invocation policy mode ((path, outlet) :: opened) failed rest
    .files (fun files =>
        match files.openWrite invocation.viewer mode path with
        | .ok (files, _) => files
        | .error _ => files) fun files =>
      match files.openWrite invocation.viewer mode path with
      | .ok (_, file) => proceed (.ofOpened file)
      | .error failure =>
        warn invocation (pathText path ++ ": " ++ reason failure) fun _ =>
          if TeePolicy.isStrict policy then .exitWith 1 else openOutlets invocation policy mode opened true rest

def tee : Utility := fun invocation =>
  let table : OptionTable := {
    flags := ['a', 'i', 'p'], optional := ['=']
    long := [("append", 'a'), ("ignore-interrupts", 'i'), ("output-error", '=')]
    check := fun letter value =>
      if letter = '=' && !value.isEmpty then TeePolicy.choices.refusal? "--output-error" value else none }
  withOptions table invocation 1 fun options =>
    let policy : Option TeePolicy :=
      (options.given.reverse.find? fun (letter, _) => letter = 'p' || letter = '=').map fun (letter, value) =>
        if letter = '=' then (TeePolicy.choices.choose value).toOption.getD .usual else .usual
    let copy : Program :=
      openOutlets invocation policy (if options.has 'a' then .append else .truncate)
        [("standard output", .descriptor Program.outputDescriptor)] false options.operands
    if policy.isSome then Program.hold (·.setPlan brokenPipeSignal .ignored) fun _ => copy else copy

end PipeShell.Utility
