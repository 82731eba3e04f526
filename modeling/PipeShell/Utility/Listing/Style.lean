import PipeShell.Process.Invocation
import PipeShell.Utility.Listing.Request
import PipeShell.Utility.NamePattern

/-! # How directories are listed

What a request leaves open is settled, partly by the environment, and names are written
in the style that comes out of it. -/

set_option autoImplicit false

namespace PipeShell.Utility

structure ListStyle where
  layout : NameLayout
  page : Page
  dots : Hiding
  hidden : List String
  ignored : List String
  order : ListOrder
  isReversed : Bool
  directoriesFirst : Bool
  indicators : Indicators
  following : LinkFollowing
  quoting : QuotingStyle
  masks : Bool
  isRecursive : Bool
  isImmediate : Bool
  showsNumber : Bool
  showsBlocks : Bool
  showsContext : Bool
  long : LongStyle
  /-- The text of the only moment there is. -/
  moment : String
  blockScale : SizeScale
  fileScale : SizeScale

/-- The text of the moment at which time begins, in one of the styles for times. A style
may give a text of its own, behind a line for moments that are long past. -/
def momentText (style : String) : Except Refusal String :=
  let plain := if "posix-".toList.isPrefixOf style.toList then "locale" else style
  match plain.toList with
  | '+' :: form =>
    match form.splitOn '\n' with
    | [_, recent] => .ok (String.ofList recent)
    | [only] => .ok (String.ofList only)
    | _ => .error { message := "invalid time style format " ++ shown (String.ofList form), hinted := false }
  | _ =>
    let choices : Choices String :=
      [("full-iso", "1970-01-01 00:00:00.000000000 +0000"), ("long-iso", "1970-01-01 00:00"), ("iso", "01-01 00:00"),
        ("locale", "Jan  1 00:00")]
    match choices.choose plain with
    | .ok text => .ok text
    | .error fault =>
      .error {
        message := fault ++ " argument " ++ shown plain ++ " for 'time style'"
        details := ["Valid arguments are:", "  - [posix-]full-iso", "  - [posix-]long-iso", "  - [posix-]iso",
          "  - [posix-]locale", "  - +FORMAT (e.g., +%H:%M) for a 'date'-style format"] }

namespace ListRequest

/-- What the environment says about how directories are listed. Words that make no sense
are ignored, and something is said about them. -/
structure EnvironmentChoices where
  lineWidth : Option Nat := none
  tabSize : Option Nat := none
  quoting : Option QuotingStyle := none
  warnings : List String := []

def environmentChoices (request : ListRequest) (environment : Environment) (layout : NameLayout) : EnvironmentChoices :=
  let isFilled := layout = .columns || layout = .rows || layout = .commas
  let asked {α : Type} (given : Option α) (name : String) : Option String :=
    if given.isSome then none else environment.get? name
  let width := ((if isFilled then asked request.lineWidth "COLUMNS" else none).filter (· != "")).map fun word => (word, lineWidth? word)
  let tab := (if isFilled then asked request.tabSize "TABSIZE" else none).map fun word => (word, (readTabSize word).toOption)
  let quoting := (asked request.quoting "QUOTING_STYLE").map fun word => (word, (quotingChoices.choose word).toOption)
  let warning {α : Type} (text : String) (choice : Option (String × Option α)) : List String :=
    match choice with
    | some (word, none) => ["ignoring " ++ text ++ ": " ++ shown word]
    | _ => []
  { lineWidth := width.bind (·.2)
    tabSize := tab.bind (·.2)
    quoting := (quoting.bind (·.2)).map quotingAt
    warnings := warning "invalid width in environment variable COLUMNS" width ++
      warning "invalid tab size in environment variable TABSIZE" tab ++
      warning "invalid value of environment variable QUOTING_STYLE" quoting }

/-- The scale of sizes on the disk and the one of files, unless the request has them. -/
def scales (request : ListRequest) (environment : Environment) : SizeScale × SizeScale :=
  let usual := SizeScale.units (if (environment.get? "POSIXLY_CORRECT").isSome then 512 else 1024) ""
  let own := environment.get? "LS_BLOCK_SIZE"
  let shared := environment.get? "BLOCK_SIZE"
  let read (word : String) : SizeScale := (SizeScale.read word).toOption.getD usual
  match request.blockScale, (own.orElse fun _ => shared) with
  | some scale, _ => (scale, request.fileScale)
  | none, some word => (if request.usesKilobytes then .units 1024 "" else read word, read word)
  | none, none =>
    let scale := ((environment.get? "BLOCKSIZE").map read).getD usual
    (if request.usesKilobytes then .units 1024 "" else scale, request.fileScale)

/-- How directories are listed, with what is said about the environment; or why the call is
refused. `usual` and `quoting` are what is done where nothing else is wanted. -/
def style (request : ListRequest) (environment : Environment) (usual : NameLayout) (quoting : QuotingStyle) :
    Except Refusal (ListStyle × List String) := do
  let layout := request.layout.getD usual
  let choices := request.environmentChoices environment layout
  let lineWidth := ((request.lineWidth.orElse fun _ => choices.lineWidth)).getD 80
  let (blockScale, fileScale) := request.scales environment
  let timeStyle := (request.timeStyle.orElse fun _ => environment.get? "TIME_STYLE").getD "locale"
  let moment ← if layout = .long then momentText timeStyle else .ok ""
  let following : LinkFollowing :=
    if request.isImmediate || request.indicators = .classify || layout = .long then .never else .operandDirectories
  return ({
    layout, moment, blockScale, fileScale
    page := {
      lineWidth := if lineWidth = 0 then none else some lineWidth
      tabSize := ((request.tabSize.orElse fun _ => choices.tabSize)).getD 8
      ending := request.ending }
    dots := request.dots, hidden := request.hidden, ignored := request.ignored
    order := request.order.getD .name, isReversed := request.isReversed, directoriesFirst := request.directoriesFirst
    indicators := request.indicators
    following := request.following.getD following
    quoting := ((request.quoting.orElse fun _ => choices.quoting)).getD quoting
    masks := request.masks, isRecursive := request.isRecursive, isImmediate := request.isImmediate
    showsNumber := request.showsNumber, showsBlocks := request.showsBlocks, showsContext := request.showsContext
    long := request.long }, choices.warnings)

end ListRequest

namespace ListStyle

def alignsQuotes (style : ListStyle) : Bool :=
  (style.layout = .long || ((style.layout = .columns || style.layout = .rows) && style.page.lineWidth.isSome)) &&
    style.quoting.sparing && style.quoting.form != .bare

def further (style : ListStyle) : Bytes :=
  (if style.quoting = .escape then [32] else []) ++
    match style.indicators with
    | .fileType => rawBytes "*=>@|"
    | .classify => rawBytes "=>@|"
    | _ => []

def leavesOut (style : ListStyle) (name : String) : Bool :=
  let isDotted := name.toList.head? == some '.'
  let isOwn := name = "." || name = ".."
  (match style.dots with
    | .dotted => isDotted || style.hidden.any (isOpenlyNamedBy · name)
    | .ownNames => isOwn
    | .nothing => false) || style.ignored.any (isOpenlyNamedBy · name)

def writtenName (style : ListStyle) (further : Bytes) (name : String) : Bytes :=
  let bytes := style.quoting.quoted further (rawBytes name)
  let isMasked := style.masks &&
    (match style.quoting.form with
      | .bare => true
      | .shell escapes => !escapes
      | .backslashed _ => false)
  if isMasked then bytes.map fun b => if isPrintableByte b then b else 63 else bytes

/-- A name as it is written, without the blank in front that sets it off from quoted
ones. -/
def nameBytes (style : ListStyle) (name : String) : Bytes := style.writtenName style.further name

def headingBytes (style : ListStyle) (path : String) : Bytes := style.writtenName [58] path ++ rawBytes ":\n"

def isQuoted (style : ListStyle) (name : String) : Bool :=
  style.quoting.sparing && style.quoting.form.isNeeded style.further (rawBytes name)

end ListStyle

end PipeShell.Utility
