import PipeShell.Text.Version
import PipeShell.Utility.Change
import PipeShell.Utility.FileFacts
import PipeShell.Utility.Listing.Style

/-! # Listing directories

The operands that are no directories are listed first, then the directories one after the
other. Each list is a block of text; what goes wrong is told in between. -/

set_option autoImplicit false

namespace PipeShell.Utility

open PipeShell.System

structure ListedFile where
  name : String
  /-- What is there, as the directory tells. -/
  kind : Node
  location : Location
  /-- What is there when it is looked at. -/
  status : Option (Location × Node) := none
  target : Option Node := none
  /-- It is a directory that is listed by itself. -/
  isOpened : Bool := false

namespace ListedFile

def isDirectory (file : ListedFile) : Bool :=
  match file.status with
  | some (_, node) => node.isDirectory
  | none => file.kind.isDirectory

def leadsToDirectory (file : ListedFile) : Bool := file.isDirectory || file.target.any Node.isDirectory

def sign (files : FileSystem) (indicators : Indicators) (isKnown : Bool) (node : Node) : String :=
  match indicators, node with
  | .none, _ => ""
  | _, .directory _ => "/"
  | .slash, _ => ""
  | _, .link _ => "@"
  | _, .pipe _ => "|"
  | .classify, .file _ | .classify, .program _ => if isKnown && isRunnable files node then "*" else ""
  | _, _ => ""

def indicator (file : ListedFile) (files : FileSystem) (indicators : Indicators) : String :=
  match file.status with
  | some (_, node) => sign files indicators true node
  | none => sign files indicators false file.kind

end ListedFile

namespace ListStyle

def needsStatus (style : ListStyle) : Bool :=
  style.order = .size || style.layout = .long || style.showsContext || style.showsBlocks

def looksAt (style : ListStyle) (kind : Node) : Bool :=
  let needsKind := style.isRecursive || style.indicators != .none || style.directoriesFirst
  let follows := style.following = .always || style.directoriesFirst
  style.needsStatus ||
    match kind with
    | .link _ => (style.showsNumber || needsKind) && follows
    | .file _ | .program _ => style.indicators = .classify
    | _ => false

def examineOperand (style : ListStyle) (files : FileSystem) (viewer : Viewer) (path : String) :
    Except Failure (Location × Node) :=
  match style.following with
  | .never => files.examine viewer false path
  | .always | .operands => files.examine viewer true path
  | .operandDirectories =>
    match files.examine viewer true path with
    | .ok found => if found.2.isDirectory then .ok found else files.examine viewer false path
    | .error (.os .noEntry) => files.examine viewer false path
    | .error failure => .error failure

def linkEnd (style : ListStyle) (files : FileSystem) (viewer : Viewer) (path : String) (node : Node) : Option Node :=
  match node with
  | .link _ =>
    let isTraced := (style.layout = .long && (style.indicators = .fileType || style.indicators = .classify)) ||
      style.directoriesFirst
    if isTraced then ((files.examine viewer true path).toOption).map (·.2) else none
  | _ => none

def movesNames (style : ListStyle) (listed : List ListedFile) : Bool :=
  style.alignsQuotes && listed.any fun file => style.isQuoted file.name

def shownLength (style : ListStyle) (bytes : Bytes) : Nat := if style.masks then bytes.length else bytes.countP isPrintableByte

def placedName (style : ListStyle) (moved : Bool) (name : String) : Bytes :=
  (if moved && !style.isQuoted name then [32] else []) ++ style.nameBytes name

def compare (style : ListStyle) (files : FileSystem) (moved : Bool) (a b : ListedFile) : Ordering :=
  let bytewise (a b : Bytes) : Ordering := if bytesBefore a b then .lt else if bytesBefore b a then .gt else .eq
  let byName := bytewise (rawBytes a.name) (rawBytes b.name)
  let size (file : ListedFile) : Nat := (file.status.map fun (_, node) => byteSize files node).getD 0
  let extension (file : ListedFile) : Bytes :=
    let bytes := rawBytes file.name
    if bytes.contains 46 then 46 :: (bytes.reverse.takeWhile (· != 46)).reverse else []
  let width (file : ListedFile) : Nat := style.shownLength (style.placedName moved file.name)
  let order :=
    match style.order with
    | .stored => .eq
    | .name => byName
    | .size => (Ord.compare (size b) (size a)).then byName
    | .extension => (bytewise (extension a) (extension b)).then byName
    | .version => (Text.compareVersions (rawBytes a.name) (rawBytes b.name)).then byName
    | .width => (Ord.compare (width a) (width b)).then byName
  let order := if style.isReversed then order.swap else order
  if style.directoriesFirst && a.leadsToDirectory != b.leadsToDirectory then (if a.leadsToDirectory then .lt else .gt)
  else order

def sorted (style : ListStyle) (files : FileSystem) (listed : List ListedFile) : List ListedFile :=
  let moved := style.movesNames listed
  if style.order = .stored then listed else listed.mergeSort fun a b => style.compare files moved a b != .gt

inductive Column where
  /-- A text that stands on the right of its column. -/
  | right (text : String)
  /-- A text that stands on the left of its column. -/
  | left (text : String)

namespace Column

def text : Column → String
  | .right text | .left text => text

def filled (width : Nat) : Column → String
  | .right text => padLeft width text
  | .left text => text ++ String.ofList (List.replicate (width - text.length) ' ')

end Column

def sizeText (style : ListStyle) (files : FileSystem) (node : Node) : String :=
  match node with
  | .device device =>
    let (major, minor) := deviceNumbers device
    toString major ++ ", " ++ toString minor
  | node => style.fileScale.text (byteSize files node)

def columns (style : ListStyle) (files : FileSystem) (file : ListedFile) : List Column :=
  let known (text : Location → Node → String) : String := (file.status.map fun (location, node) => text location node).getD "?"
  let (location, node) := file.status.getD (file.location, file.kind)
  let number := if style.showsNumber then [Column.right (toString (nodeNumber files location node))] else []
  let blocks :=
    if style.showsBlocks then [Column.right (known fun _ node => style.blockScale.text (storedSize files node))] else []
  if style.layout = .long then
    let user (node : Node) : String :=
      let owner := (files.attributesOf node).owner
      if style.long.numeric then toString owner else userName owner
    let person (text : String) : Column := if style.long.numeric then .right text else .left text
    let group := if style.long.numeric then "0" else "root"
    number ++ blocks ++
      [.left (known fun _ node => modeLetters files node), .right (known fun location node => toString (linkCount files location node))] ++
      (if style.long.showsOwner then [person (known fun _ node => user node)] else []) ++
      (if style.long.showsGroup then [person (known fun _ _ => group)] else []) ++
      (if style.long.showsAuthor then [person (known fun _ node => user node)] else []) ++
      (if style.showsContext then [.left "?"] else []) ++
      [.right (known fun _ node => style.sizeText files node), .right (known fun _ _ => style.moment)]
  else number ++ blocks ++ if style.showsContext then [.right "?"] else []

def widthsOf (rows : List (List Column)) : List Nat :=
  rows.foldl (fun widths row =>
    row.zipIdx.map fun (column, index) => max column.text.length (widths[index]?.getD 0)) []

def cell (style : ListStyle) (files : FileSystem) (widths : List Nat) (moved : Bool) (file : ListedFile) : Cell :=
  let isTight := style.layout = .commas
  let front := String.join ((style.columns files file).zipIdx.map fun (column, index) =>
    column.filled (if isTight then 0 else widths[index]?.getD 0) ++ " ")
  let name := style.placedName moved file.name
  let behind : Bytes :=
    match style.layout, file.status with
    | .long, some (_, .link target) =>
      rawBytes " -> " ++ style.nameBytes target ++
        rawBytes ((file.target.map (ListedFile.sign files style.indicators true)).getD "")
    | _, _ => rawBytes (file.indicator files style.indicators)
  { text := rawBytes front ++ name ++ behind, width := front.length + style.shownLength name + behind.length }

def block (style : ListStyle) (files : FileSystem) (all listed : List ListedFile) : Bytes :=
  let widths := widthsOf (all.map (style.columns files))
  let moved := style.movesNames all
  layOut style.layout style.page (listed.map (style.cell files widths moved))

end ListStyle

inductive ListPart where
  | text (data : Bytes)
  /-- The name of a directory above what is in it. -/
  | heading (data : Bytes)
  /-- What went wrong, and whether it is about something that the call names. -/
  | complaint (text : String) (isSerious : Bool)

namespace ListStyle

def entryPath (directory name : String) : String :=
  if directory = "." then name else if Path.endsWithSlash directory then directory ++ name else directory ++ "/" ++ name

def entries (style : ListStyle) (viewer : Viewer) (files : FileSystem) (path : String) (location : Location) :
    List ListedFile × List ListPart :=
  let own (name : String) (location : Location) : List (String × Location × Node) :=
    ((files.get? location).map fun node => (name, location, node)).toList
  let inside := (files.children location).map fun (name, node) => (name, location ++ [name], node)
  let all := own "." location ++ own ".." location.dropLast ++ inside
  let followsAll := style.following = .always
  let read := (all.filter fun (name, _, _) => !style.leavesOut name).map fun (name, location, kind) =>
    if !style.looksAt kind then (({ name, kind, location } : ListedFile), none)
    else
      let path := entryPath path name
      match files.examine viewer followsAll path with
      | .ok found => ({ name, kind, location, status := some found, target := style.linkEnd files viewer path found.2 }, none)
      | .error failure =>
        ({ name, kind, location }, some (ListPart.complaint ("cannot access " ++ shownPath path ++ ": " ++ reason failure) false))
  (read.map (·.1), read.filterMap (·.2))

/-- A directory, perhaps with those below it, at most `bound` levels deep. It is not listed
again below itself. -/
def directory (style : ListStyle) (viewer : Viewer) (files : FileSystem) (isHeaded isNamed : Bool) :
    Nat → List Location → String → List ListPart
  | 0, _, _ => []
  | bound + 1, above, path =>
    let found : Except Failure Location :=
      match files.examine viewer true path with
      | .error failure => .error failure
      | .ok (location, node) =>
        if !node.isDirectory then .error (.os .notDirectory)
        else if !(files.attributesOf node).allows viewer.user .read then .error (.os .accessDenied)
        else .ok location
    match found with
    | .error failure => [.complaint ("cannot open directory " ++ shownPath path ++ ": " ++ reason failure) isNamed]
    | .ok location =>
      if style.isRecursive && above.contains location then
        [.complaint (unquotedOr [] path ++ ": not listing already-listed directory") true]
      else
        let (listed, complaints) := style.entries viewer files path location
        let listed := style.sorted files listed
        let heading :=
          if style.isRecursive || isHeaded then
            [ListPart.heading (style.headingBytes path)]
          else []
        let total :=
          if style.layout = .long || style.showsBlocks then
            let sum := listed.foldl (fun sum file => sum + (file.status.map fun (_, node) => storedSize files node).getD 0) 0
            rawBytes ("total " ++ style.blockScale.text sum) ++ [style.page.ending]
          else []
        let below :=
          if style.isRecursive then
            (listed.filter fun file => file.isDirectory && file.name != "." && file.name != "..").flatMap fun file =>
              directory style viewer files isHeaded false bound (location :: above) (pathInside path file.name)
          else []
        heading ++ complaints ++ [.text (total ++ style.block files listed listed)] ++ below

def listing (style : ListStyle) (viewer : Viewer) (files : FileSystem) (operands : List String) : List ListPart :=
  let named := if operands.isEmpty && style.isImmediate then ["."] else operands
  let read := named.map fun path =>
    match style.examineOperand files viewer path with
    | .ok found =>
      (some { name := path, kind := found.2, location := found.1, status := some found
              target := style.linkEnd files viewer path found.2
              isOpened := found.2.isDirectory && !style.isImmediate : ListedFile }, none)
    | .error failure =>
      (none, some (ListPart.complaint ("cannot access " ++ shownPath path ++ ": " ++ reason failure) true))
  let all := style.sorted files (read.filterMap (·.1))
  let plain := all.filter fun file => !file.isOpened
  let directories := if named.isEmpty then ["."] else (all.filter (·.isOpened)).map (·.name)
  let isAlone := plain.isEmpty && operands.length ≤ 1 && directories.length = 1
  let block := style.block files all plain
  read.filterMap (·.2) ++
    (if plain.isEmpty then [] else [.text (block ++ if directories.isEmpty then [] else [10])]) ++
    directories.flatMap fun path => style.directory viewer files (!isAlone) true (files.entries.length + 1) [] path

end ListStyle

/-- Writes the parts of a listing. An empty line stands in front of every heading but the
first one. -/
def tellParts (invocation : Invocation) (code : UInt8) (isFirst : Bool) : List ListPart → Program
  | [] => .exitWith code
  | .text data :: rest => emit invocation data (fun _ => tellParts invocation code isFirst rest) 2
  | .heading data :: rest =>
    emit invocation ((if isFirst then [] else [10]) ++ data) (fun _ => tellParts invocation code false rest) 2
  | .complaint text isSerious :: rest =>
    warn invocation text fun _ => tellParts invocation (if isSerious then 2 else max code 1) isFirst rest

/-- Lists directories; `usual` and `quoting` are how names are laid out and written where
nothing else is wanted. -/
def listInStyle (usual : NameLayout) (quoting : QuotingStyle) : Utility := fun invocation =>
  withRequest listTable invocation 2 ({} : ListRequest) ListRequest.adopt fun request operands =>
    match request.style invocation.environment usual quoting with
    | .error refusal => refuseFor invocation refusal 2
    | .ok (style, warnings) =>
      let rec warnAll : List String → Program
        | [] => .look fun files => tellParts invocation 0 true (style.listing invocation.viewer files operands)
        | text :: rest => warn invocation text fun _ => warnAll rest
      warnAll warnings

def list : Utility := listInStyle .lines .literal

def listColumns : Utility := listInStyle .columns .escape

end PipeShell.Utility
