import PipeShell.Utility.Listing.Layout
import PipeShell.Utility.Listing.Scale

/-! # What may be asked of a listing

What is left out, in which order names stand, what is told about the files, and how the
names are written. Options are taken in one after the other, and some things stay
open. -/

set_option autoImplicit false

namespace PipeShell.Utility

/-- Which names of a directory are left out because of a dot in front. -/
inductive Hiding where
  /-- All names that begin with a dot. -/
  | dotted
  /-- The names of the directory itself and of the one above. -/
  | ownNames
  | nothing
  deriving DecidableEq, Repr

inductive ListOrder where
  | stored
  | name
  | size
  | extension
  | version
  | width
  deriving DecidableEq, Repr

inductive Indicators where
  | none
  | slash
  | fileType
  /-- Signs for all kinds of files and for programs. -/
  | classify
  deriving DecidableEq, Repr

inductive LinkFollowing where
  | never
  | always
  /-- Links that are named in the call. -/
  | operands
  /-- Links to directories that are named in the call. -/
  | operandDirectories
  deriving DecidableEq, Repr

/-- What is told about files on their lines, apart from sizes. -/
structure LongStyle where
  showsOwner : Bool := true
  showsGroup : Bool := true
  showsAuthor : Bool := false
  /-- Users and groups are shown by their numbers. -/
  numeric : Bool := false
  deriving DecidableEq, Repr

/-- How directories are listed, as far as the options tell. -/
structure ListRequest where
  layout : Option NameLayout := none
  lineWidth : Option Nat := none
  tabSize : Option Nat := none
  ending : UInt8 := 10
  dots : Hiding := .dotted
  /-- Patterns for names that are hidden as those with a dot in front are. -/
  hidden : List String := []
  /-- Patterns for names that are left out. -/
  ignored : List String := []
  order : Option ListOrder := none
  isReversed : Bool := false
  directoriesFirst : Bool := false
  indicators : Indicators := .none
  following : Option LinkFollowing := none
  quoting : Option QuotingStyle := none
  /-- A sign stands for each byte that cannot be printed. -/
  masks : Bool := false
  isRecursive : Bool := false
  /-- Directories are listed themselves and not what is in them. -/
  isImmediate : Bool := false
  showsNumber : Bool := false
  showsBlocks : Bool := false
  showsContext : Bool := false
  long : LongStyle := {}
  timeStyle : Option String := none
  blockScale : Option SizeScale := none
  fileScale : SizeScale := .units 1 ""
  usesKilobytes : Bool := false

def chooseFor {α : Type} [BEq α] (choices : Choices α) (option word : String) : Except Refusal α :=
  match choices.choose word, choices.refusal? option word with
  | .ok value, _ => .ok value
  | .error _, some refusal => .error refusal
  | .error fault, none => .error { message := fault }

def whenChoices : Choices (Option Bool) :=
  [("always", some true), ("yes", some true), ("force", some true), ("never", some false), ("no", some false),
    ("none", some false), ("auto", none), ("tty", none), ("if-tty", none)]

def layoutChoices : Choices NameLayout :=
  [("verbose", .long), ("long", .long), ("commas", .commas), ("horizontal", .rows), ("across", .rows),
    ("vertical", .columns), ("single-column", .lines)]

/-- What names may be ordered by. There are no times, so they order nothing but names. -/
inductive OrderWord where
  | none
  | time
  | size
  | extension
  | version
  | width
  deriving DecidableEq, Repr

def orderChoices : Choices OrderWord :=
  [("none", .none), ("time", .time), ("size", .size), ("extension", .extension), ("version", .version), ("width", .width)]

def OrderWord.order : OrderWord → ListOrder
  | .none => .stored
  | .time => .name
  | .size => .size
  | .extension => .extension
  | .version => .version
  | .width => .width

def timeChoices : Choices Nat :=
  [("atime", 0), ("access", 0), ("use", 0), ("ctime", 1), ("status", 1), ("birth", 2), ("creation", 2)]

def indicatorChoices : Choices Indicators :=
  [("none", .none), ("slash", .slash), ("file-type", .fileType), ("classify", .classify)]

/-- The styles of quoting by their names, in order; two of them are alike and have
different names. -/
def quotingNames : List (String × QuotingStyle) :=
  [("literal", .literal), ("shell", ⟨.shell false, true⟩), ("shell-always", ⟨.shell false, false⟩),
    ("shell-escape", .shellEscape), ("shell-escape-always", .shellEscapeAlways), ("c", .doubled),
    ("c-maybe", ⟨.backslashed (some 34), true⟩), ("escape", .escape), ("locale", .locale), ("clocale", .doubled)]

def quotingChoices : Choices Nat := quotingNames.zipIdx.map fun ((name, _), index) => (name, index)

def quotingAt (index : Nat) : QuotingStyle := ((quotingNames[index]?).map (·.2)).getD .literal

/-- A number in the notation of programs: hexadecimal behind `0x`, octal behind `0`. The
answer is nothing for another word. -/
def notedNumber? (word : String) : Option Nat :=
  let body := word.toList.dropWhile isBlankChar
  let body := if body.head? = some '+' then body.drop 1 else body
  let valueIn (base : Nat) (digits : List Char) : Option Nat :=
    digits.foldl (fun value c => value.bind fun value =>
      let digit :=
        if c.isDigit then c.toNat - 48
        else if 'a' ≤ c.toLower && c.toLower ≤ 'f' then c.toLower.toNat - 87
        else base
      if digit < base then some (value * base + digit) else none) (some 0)
  match body with
  | '0' :: 'x' :: digit :: digits | '0' :: 'X' :: digit :: digits => valueIn 16 (digit :: digits)
  | '0' :: digits => valueIn 8 digits
  | [] => none
  | digits => valueIn 10 digits

def lineWidth? (word : String) : Option Nat :=
  (notedNumber? word).map fun width => if largestInteger < Int.ofNat width then 0 else width

def readTabSize (word : String) : Except Refusal Nat :=
  let refusal (fault : QuantityFault) : Refusal :=
    { message := "invalid tab size: " ++ shown word ++ fault.reason, hinted := false }
  match notedNumber? word with
  | some size => if largestInteger < Int.ofNat size then .error (refusal .tooLarge) else .ok size
  | none => .error (refusal .malformed)

def listTable : OptionTable := {
  flags := ['1', 'a', 'A', 'b', 'B', 'c', 'C', 'd', 'D', 'f', 'F', 'g', 'G', 'h', 'H', 'i', 'k', 'l', 'L', 'm', 'n', 'N',
    'o', 'p', 'q', 'Q', 'r', 'R', 's', 'S', 't', 'u', 'U', 'v', 'x', 'X', 'Z']
  valued := ['w', 'I', 'T', '%', '=', '+', '@', '^', '#', '$', '/']
  optional := ['~', '!', '&']
  long := [("all", 'a'), ("escape", 'b'), ("directory", 'd'), ("dired", 'D'), ("full-time", ','),
    ("group-directories-first", ':'), ("human-readable", 'h'), ("inode", 'i'), ("kibibytes", 'k'), ("numeric-uid-gid", 'n'),
    ("no-group", 'G'), ("hide-control-chars", 'q'), ("reverse", 'r'), ("size", 's'), ("width", 'w'), ("almost-all", 'A'),
    ("ignore-backups", 'B'), ("classify", '!'), ("file-type", '.'), ("si", '"'), ("dereference-command-line", 'H'),
    ("dereference-command-line-symlink-to-dir", '>'), ("hide", '%'), ("ignore", 'I'), ("indicator-style", '/'),
    ("dereference", 'L'), ("literal", 'N'), ("quote-name", 'Q'), ("quoting-style", '$'), ("recursive", 'R'),
    ("format", '='), ("show-control-chars", ';'), ("sort", '+'), ("tabsize", 'T'), ("time", '@'), ("time-style", '^'),
    ("zero", 'z'), ("color", '~'), ("hyperlink", '&'), ("block-size", '#'), ("context", 'Z'), ("author", '<')] }

namespace ListRequest

/-- The request for a layout on lines of their own, unless all is told about files. -/
def withLines (request : ListRequest) : ListRequest :=
  if request.layout == some .long then request else { request with layout := some .lines }

def adopt (request : ListRequest) (letter : Char) (value : String) : Except Refusal ListRequest :=
  let isWanted (option : String) : Except Refusal Bool :=
    if value.isEmpty then .ok true else (chooseFor whenChoices option value).map fun choice => choice.getD false
  match letter with
  | '1' => .ok request.withLines
  | 'a' => .ok { request with dots := .nothing }
  | 'A' => .ok { request with dots := .ownNames }
  | 'b' => .ok { request with quoting := some .escape }
  | 'B' => .ok { request with ignored := request.ignored ++ ["*~", ".*~"] }
  | 'C' => .ok { request with layout := some .columns }
  | 'd' => .ok { request with isImmediate := true }
  | 'f' => .ok { request with
      dots := .nothing, order := some .stored, showsBlocks := false
      layout := if request.layout == some .long then none else request.layout }
  | 'F' => .ok { request with indicators := .classify }
  | '!' => (isWanted "--classify").map fun wanted => if wanted then { request with indicators := .classify } else request
  | 'g' => .ok { request with layout := some .long, long := { request.long with showsOwner := false } }
  | 'G' => .ok { request with long := { request.long with showsGroup := false } }
  | 'h' => .ok { request with blockScale := some (.automatic 1024), fileScale := .automatic 1024 }
  | '"' => .ok { request with blockScale := some (.automatic 1000), fileScale := .automatic 1000 }
  | 'H' => .ok { request with following := some .operands }
  | '>' => .ok { request with following := some .operandDirectories }
  | 'L' => .ok { request with following := some .always }
  | 'i' => .ok { request with showsNumber := true }
  | 'I' => .ok { request with ignored := request.ignored ++ [value] }
  | '%' => .ok { request with hidden := request.hidden ++ [value] }
  | 'k' => .ok { request with usesKilobytes := true }
  | 'l' => .ok { request with layout := some .long }
  | ',' => .ok { request with layout := some .long, timeStyle := some "full-iso" }
  | 'm' => .ok { request with layout := some .commas }
  | 'n' => .ok { request with layout := some .long, long := { request.long with numeric := true } }
  | 'N' => .ok { request with quoting := some .literal }
  | 'o' => .ok { request with layout := some .long, long := { request.long with showsGroup := false } }
  | 'p' => .ok { request with indicators := .slash }
  | '.' => .ok { request with indicators := .fileType }
  | 'q' => .ok { request with masks := true }
  | ';' => .ok { request with masks := false }
  | 'Q' => .ok { request with quoting := some .doubled }
  | 'r' => .ok { request with isReversed := true }
  | 'R' => .ok { request with isRecursive := true }
  | 's' => .ok { request with showsBlocks := true }
  | 'S' => .ok { request with order := some .size }
  | 't' => .ok { request with order := some .name }
  | 'U' => .ok { request with order := some .stored }
  | 'v' => .ok { request with order := some .version }
  | 'x' => .ok { request with layout := some .rows }
  | 'X' => .ok { request with order := some .extension }
  | 'Z' => .ok { request with showsContext := true }
  | 'z' => .ok { request.withLines with ending := 0, masks := false, quoting := some .literal }
  | ':' => .ok { request with directoriesFirst := true }
  | '<' => .ok { request with long := { request.long with showsAuthor := true } }
  | '=' => (chooseFor layoutChoices "--format" value).map fun layout => { request with layout := some layout }
  | '+' => (chooseFor orderChoices "--sort" value).map fun word => { request with order := some word.order }
  | '@' => (chooseFor timeChoices "--time" value).map fun _ => request
  | '^' => .ok { request with timeStyle := some value }
  | '/' => (chooseFor indicatorChoices "--indicator-style" value).map fun indicators => { request with indicators }
  | '$' =>
    (chooseFor quotingChoices "--quoting-style" value).map fun index => { request with quoting := some (quotingAt index) }
  | '~' => (isWanted "--color").map fun _ => request
  | '&' => (isWanted "--hyperlink").map fun _ => request
  | 'w' =>
    match lineWidth? value with
    | some width => .ok { request with lineWidth := some width }
    | none => .error { message := "invalid line width: " ++ shown value, hinted := false }
  | 'T' => (readTabSize value).map fun size => { request with tabSize := some size }
  | '#' =>
    match SizeScale.read value with
    | .ok scale => .ok { request with blockScale := some scale, fileScale := scale }
    | .error (front, behind) =>
      .error { message := front ++ "--block-size argument '" ++ value ++ "'" ++ behind, hinted := false }
  | _ => .ok request

end ListRequest

end PipeShell.Utility
