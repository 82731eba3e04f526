import PipeShell.Utility.Change

/-! # Backups

What a file is renamed to before another one takes its name: the name with a suffix,
or with a number that is greater than all numbers so far. -/

set_option autoImplicit false

namespace PipeShell.Utility

open PipeShell.System

inductive BackupKind where
  | none
  | simple
  /-- The name has a number if there is a backup with a number, and a suffix otherwise. -/
  | existing
  | numbered
  deriving DecidableEq, Repr

def backupChoices : Choices BackupKind :=
  [("none", .none), ("off", .none), ("simple", .simple), ("never", .simple), ("existing", .existing), ("nil", .existing),
    ("numbered", .numbered), ("t", .numbered)]

structure BackupStyle where
  kind : BackupKind := .none
  suffix : String := "~"
  deriving DecidableEq, Repr

namespace BackupStyle

def isWanted (style : BackupStyle) : Bool := style.kind != .none

def isAsked (options : Options) : Bool := options.has 'b' || options.has '^' || options.has 'S'

/-- What options say about backups; a kind or a suffix that they leave open comes from
the environment. -/
def ofOptions (environment : Environment) (options : Options) : Except Refusal BackupStyle :=
  if !isAsked options then .ok {}
  else
    let given := ((options.given.filter fun (letter, value) => letter = '^' && !value.isEmpty).getLast?).map (·.2)
    let usual := (environment.get? "VERSION_CONTROL").filter (!·.isEmpty)
    let (context, word) : String × Option String :=
      match given, usual with
      | some word, _ => ("backup type", some word)
      | Option.none, word => ("$VERSION_CONTROL", word)
    let suffix :=
      match options.value? 'S' with
      | some suffix => suffix
      | Option.none => (environment.get? "SIMPLE_BACKUP_SUFFIX").getD ""
    let suffix := if suffix.isEmpty || suffix.toList.contains '/' then "~" else suffix
    match word with
    | Option.none => .ok { kind := .existing, suffix }
    | some word =>
      match backupChoices.choose word, backupChoices.refusal? context word with
      | .ok kind, _ => .ok { kind, suffix }
      | .error _, some refusal => .error refusal
      | .error fault, Option.none => .error { message := fault }

def numberOf? (name backup : String) : Option Nat :=
  let front := (name ++ ".~").toList
  let letters := backup.toList
  if front.isPrefixOf letters && letters.getLast? == some '~' then
    let digits := (letters.drop front.length).dropLast
    if digits.isEmpty || digits.head? == some '0' || !digits.all Char.isDigit then Option.none else (String.ofList digits).toNat?
  else Option.none

def pathOf (style : BackupStyle) (files : FileSystem) (viewer : Viewer) (path : String) : String :=
  let name := lastComponent path
  let numbers : List Nat :=
    match files.place viewer path with
    | .ok place => (files.children place.location.dropLast).filterMap fun (other, _) => numberOf? name other
    | .error _ => []
  let highest := numbers.foldl max 0
  if style.kind = .numbered || (style.kind = .existing && highest > 0) then path ++ ".~" ++ toString (highest + 1) ++ "~"
  else path ++ style.suffix

def destroysSource (style : BackupStyle) (files : FileSystem) (viewer : Viewer) (source : Location × Node)
    (sourcePath goalPath : String) : Bool :=
  style.kind != .numbered && lastComponent sourcePath == lastComponent goalPath ++ style.suffix &&
    (match files.stat viewer (goalPath ++ style.suffix) with
      | .ok found => FileSystem.sameNode source found
      | .error _ => false)

end BackupStyle

end PipeShell.Utility
