import PipeShell.Utility.NamePattern
import PipeShell.Utility.Search.Style

/-! # Searching for lines

Lines are searched for patterns while they are read. Directories may be searched
with all that is below them. -/

set_option autoImplicit false

namespace PipeShell.Utility

open PipeShell.System

inductive DirectoryPlan where
  | opened
  | searched
  | skipped
  deriving DecidableEq, Repr

structure NameRule where
  pattern : String
  /-- Names of this kind are wanted, or they are not. -/
  wanted : Bool
  deriving DecidableEq, Repr

structure SearchRequest where
  style : SearchStyle
  /-- Only whether there was a line is wanted. -/
  quiet : Bool
  /-- The names of files with a line are listed, or of those without. -/
  lists : Option Bool
  /-- Whether the names of files are shown; if that was not said, it depends on the
  files. -/
  named : Option Bool
  hushed : Bool
  label : String
  directories : DirectoryPlan
  follows : Bool
  skipsDevices : Bool
  names : List NameRule
  directoryNames : List NameRule

structure SearchTarget where
  path : String
  name : String
  /-- The directories that it was found in. -/
  above : List Location := []
  /-- It was not asked for by its name. -/
  inside : Bool := false

def pathEndings (path : String) : List String :=
  let pieces := Path.pieces path
  (List.range pieces.length).map fun count => String.intercalate "/" (pieces.drop count)

/-- Whether a name is unwanted. The last rule that covers it decides; a name that none
covers is unwanted if the first rule wants others. -/
def isUnwanted (rules : List NameRule) (names : List String) : Bool :=
  match rules.reverse.find? fun rule => names.any (isNamedBy rule.pattern) with
  | some rule => !rule.wanted
  | none => rules.head?.any (·.wanted)

/-- Searches what was opened. Where only so many lines are wanted, what is behind
the last of them stays to be read. -/
def searchFile (invocation : Invocation) (style : SearchStyle) (name : Option String)
    (next : SearchState → Option Errno → Program) :
    Nat → Source → List Bytes → Nat → SearchState → Program
  | 0, _, _, _, state => next state none
  | bound + 1, source, unfinished, taken, state =>
    let finish (state : SearchState) : Program :=
      let isFull := style.limit.any (· ≤ state.found)
      source.giveBack (if isFull then taken - state.behindFound else 0) fun _ => next state none
    if state.finished then finish state
    else
      source.read Program.blockSize fun source answer =>
        match answer with
        | .error e => next state (some e)
        | .ok data =>
          let (state, data) := style.admitted state data
          let taken := taken + data.length
          if data.isEmpty then
            let tail := unfinished.reverse.flatten
            if tail.isEmpty then finish state
            else
              let (state, output) := style.steps name state [tail] []
              emit invocation output (fun _ => finish state) 2
          else
            match data.splitOn style.mark with
            | [] => searchFile invocation style name next bound source unfinished taken state
            | [piece] => searchFile invocation style name next bound source (piece :: unfinished) taken state
            | first :: others =>
              let (state, output) :=
                style.steps name state ((first :: unfinished).reverse.flatten :: others.dropLast) []
              emit invocation output
                (fun _ => searchFile invocation style name next bound source [others.getLastD []] taken state) 2

def fileBehind (source : Source) (next : Option OpenFile → Program) : Program :=
  match source with
  | .opened file => next (some file)
  | .descriptor number => .inspect number fun found => next (found.bind (·.2))

/-- The number of digits of the largest number that counts lines or bytes in a
file. -/
def searchWidth (style : SearchStyle) (files : FileSystem) (file : Option OpenFile) : Nat :=
  match file.bind fun file => files.fileOf? file.node with
  | some stored => (toString (stored.content.length + if style.numbered then 1 else 0)).length
  | none => (toString largestInteger).length

structure SearchOutcome where
  found : Bool := false
  failed : Bool := false
  used : Bool := false

def searchOne (invocation : Invocation) (request : SearchRequest) (named : Bool) (target : SearchTarget)
    (source : Source) (outcome : SearchOutcome) (next : SearchOutcome → Program) : Program :=
  let style := request.style
  let complain (text : String) (next : Unit → Program) : Program :=
    if request.hushed then next () else warn invocation (target.name ++ ": " ++ text) next
  let name := if named then some target.name else none
  fileBehind source fun input =>
    fileBehind (.descriptor Program.outputDescriptor) fun output =>
      let isLoop := match input, output with
        | some input, some output => input.node.isFile && input.node == output.node
        | _, _ => false
      if isLoop && !style.silent && !style.counting && !style.limit.any (· ≤ 1) then
        complain "input file is also the output" fun _ => next { outcome with failed := true }
      else
        .look fun files =>
          let width := if style.aligned then searchWidth style files input else 0
          searchFile invocation style name (fun state failure =>
              let hit := state.found != 0
              let outcome : SearchOutcome :=
                { found := outcome.found || hit, failed := outcome.failed || failure.isSome, used := state.used }
              let counted := if style.counting then
                (name.elim [] fun name => style.named name ":") ++ rawBytes (toString state.found ++ "\n") else []
              let listed := if request.lists == some hit then style.listed target.name else []
              let finish (_ : Unit) : Program :=
                if request.quiet && hit then .exitWith 0
                else
                  emit invocation (counted ++ listed) (fun _ =>
                    if style.tellsBinary state then
                      warn invocation (target.name ++ ": binary file matches") fun _ => next outcome
                    else next outcome) 2
              match failure with
              | some e => complain e.text finish
              | none => finish ())
            Program.lifetime source [] 0 { used := outcome.used, width }

def targetPath (directory name : String) : String :=
  let trimmed := String.ofList (directory.toList.reverse.dropWhile (· == '/')).reverse
  trimmed ++ "/" ++ name

def targetsIn (files : FileSystem) (target : SearchTarget) (location : Location) (bare : Bool) : List SearchTarget :=
  let names := (files.children location).map (·.1)
  (names.mergeSort fun a b => !bytesBefore (rawBytes b) (rawBytes a)).map fun name => {
    path := targetPath target.path name
    name := if bare then name else targetPath target.name name
    above := location :: target.above
    inside := true }

/-- Searches files one after the other, and what is below directories. `bare` tells
that the first directory is not shown in names. -/
def searchTargets (invocation : Invocation) (request : SearchRequest) (named bare : Bool) :
    Nat → SearchOutcome → List SearchTarget → Program
  | 0, _, _ => .exitWith 2
  | _ + 1, outcome, [] => .exitWith (if outcome.failed then 2 else if outcome.found then 0 else 1)
  | bound + 1, outcome, target :: rest =>
    let proceed (outcome : SearchOutcome) : Program :=
      searchTargets invocation request named bare bound outcome rest
    let complain (text : String) : Program :=
      let next (_ : Unit) : Program := proceed { outcome with failed := true }
      if request.hushed then next () else warn invocation (target.name ++ ": " ++ text) next
    if target.path == "-" then
      searchOne invocation request named { target with name := request.label } (.descriptor Program.inputDescriptor)
        outcome proceed
    else
      .look fun files =>
        let viewer := invocation.viewer
        let isLink : Bool := match files.resolve viewer .keep target.path with
          | .ok ⟨_, some (.link _)⟩ => true
          | _ => false
        let names := if target.inside then [Path.basename target.path] else pathEndings target.path
        if target.inside && isLink && !request.follows then proceed outcome
        else
          match files.stat viewer target.path with
          | .ok (location, .directory attributes) =>
            let isImplied := bare && !target.inside
            let isSkipped := request.directories == .skipped || (!isImplied && isUnwanted request.directoryNames names)
            if isSkipped then proceed outcome
            else if request.directories != .searched then
              openOperand invocation target.path complain fun source =>
                searchOne invocation request named target source outcome proceed
            else if !attributes.allows viewer.user .read then complain Errno.accessDenied.text
            else if target.above.contains location then
              if request.hushed then proceed outcome
              else warn invocation (target.name ++ ": warning: recursive directory loop") fun _ => proceed outcome
            else
              searchTargets invocation request (request.named.getD true) bare bound outcome
                (targetsIn files target location isImplied ++ rest)
          | found =>
            let isDevice := match found with
              | .ok (_, .device _) | .ok (_, .pipe _) => true
              | _ => false
            if isDevice && (request.skipsDevices || target.inside) then proceed outcome
            else if target.inside && isUnwanted request.names names then proceed outcome
            else
              openOperand invocation target.path complain fun source =>
                if isUnwanted request.names names then proceed outcome
                else searchOne invocation request named target source outcome proceed

def directoryChoices : Choices DirectoryPlan := [("read", .opened), ("recurse", .searched), ("skip", .skipped)]

def colourChoices : List (String × Bool) :=
  [("always", true), ("yes", true), ("force", true), ("never", false), ("no", false), ("none", false), ("auto", false),
    ("tty", false), ("if-tty", false), ("", false)]

def contextRule : QuantityRule := { complaint := "" }

def limitRule : QuantityRule := { complaint := "", signed := true, least := -largestInteger - 1, most := largestInteger }

def QuantityRule.lenient (rule : QuantityRule) (word : String) : Option Int :=
  match rule.read word with
  | .ok value => some value
  | .error .malformed => none
  | .error _ => some largestInteger

def plainly (text : String) : Refusal := { message := text, hinted := false }

def searchTable : OptionTable := {
  flags := ['v', 'c', 'n', 'i', 'y', 'q', 'o', 'F', 'E', 'G', 'P', 'x', 'w', 'l', 'L', 'h', 's', 'H', 'a', 'b', 'z', 'Z', 'U',
    'T', 'r', 'R', 'I', 'V', 'u', '!', '#', '@'],
  valued := ['e', 'f', 'm', 'A', 'B', 'C', '+', 'd', 'D', 'X', '%', '<', '&', '>', '^', '$'], optional := ['='], numeric := some 'C'
  long := [("basic-regexp", 'G'), ("extended-regexp", 'E'), ("fixed-regexp", 'F'), ("fixed-strings", 'F'),
    ("perl-regexp", 'P'), ("after-context", 'A'), ("before-context", 'B'), ("binary-files", '%'), ("binary", 'U'),
    ("byte-offset", 'b'), ("context", 'C'), ("color", '='), ("colour", '='), ("count", 'c'), ("devices", 'D'),
    ("directories", 'd'), ("exclude", '<'), ("exclude-from", '&'), ("exclude-dir", '>'), ("file", 'f'),
    ("files-with-matches", 'l'), ("files-without-match", 'L'), ("group-separator", '^'), ("include", '$'),
    ("ignore-case", 'i'), ("no-ignore-case", '!'), ("initial-tab", 'T'), ("label", '+'), ("line-buffered", '@'),
    ("line-number", 'n'), ("line-regexp", 'x'), ("max-count", 'm'), ("no-filename", 'h'), ("no-group-separator", '#'),
    ("no-messages", 's'), ("null", 'Z'), ("null-data", 'z'), ("only-matching", 'o'), ("quiet", 'q'), ("recursive", 'r'),
    ("dereference-recursive", 'R'), ("regexp", 'e'), ("invert-match", 'v'), ("silent", 'q'), ("text", 'a'),
    ("unix-byte-offsets", 'u'), ("with-filename", 'H'), ("word-regexp", 'w')]
  check := fun letter value =>
    match letter with
    | 'A' | 'B' | 'C' =>
      if (contextRule.lenient value).isSome then none else some (plainly (value ++ ": invalid context length argument"))
    | 'm' => if (limitRule.lenient value).isSome then none else some (plainly "invalid max count")
    | 'D' => if ["read", "skip"].contains value then none else some (plainly "unknown devices method")
    | 'd' => directoryChoices.refusal? "--directories" value
    | '%' =>
      if ["binary", "text", "without-match"].contains value then none else some (plainly "unknown binary-files type")
    | 'X' =>
      if ["grep", "egrep", "fgrep", "awk", "gawk", "posixawk", "perl"].contains value then none
      else some (plainly ("invalid matcher " ++ value))
    | _ => none }

def kindOf? (letter : Char) (value : String) : Option PatternKind :=
  match letter, value with
  | 'G', _ => some .basic
  | 'E', _ => some .extended
  | 'F', _ => some .fixed
  | 'P', _ => some .ordered
  | 'X', "grep" => some .basic
  | 'X', "fgrep" => some .fixed
  | 'X', "perl" => some .ordered
  | 'X', _ => some .extended
  | _, _ => none

def patternsOf (file : String) (data : Bytes) : List SearchPattern :=
  (linesOf data).zipIdx.map fun (text, index) => { text, origin := some (file, index + 1) }

def patternsIn (value : String) : List SearchPattern := ((rawBytes value).splitOn 10).map fun text => { text }

/-- What options give to a search piece by piece. -/
structure SearchInputs where
  kind : Option PatternKind := none
  patterns : List SearchPattern := []
  rules : List NameRule := []

/-- Takes in options in order, and the files they name: those with patterns, and those with
rules for names. The first that cannot be taken in ends the search. -/
def gatherSearch (invocation : Invocation) (refuse : Refusal → Program) (inputs : SearchInputs)
    (next : SearchInputs → Program) : List (Char × String) → Program
  | [] => next inputs
  | (letter, value) :: rest =>
    let proceed (inputs : SearchInputs) : Program := gatherSearch invocation refuse inputs next rest
    let load (use : Bytes → Program) : Program :=
      slurp invocation value fun answer =>
        match answer with
        | .ok data => use data
        | .error text => fail invocation (value ++ ": " ++ text) 2
    match searchTable.check letter value, kindOf? letter value with
    | some refusal, _ => refuse refusal
    | none, some kind =>
      if inputs.kind.any (· != kind) then fail invocation "conflicting matchers specified" 2
      else proceed { inputs with kind := some kind }
    | none, none =>
      match letter with
      | 'e' => proceed { inputs with patterns := inputs.patterns ++ patternsIn value }
      | 'f' => load fun data => proceed { inputs with patterns := inputs.patterns ++ patternsOf value data }
      | '<' => proceed { inputs with rules := inputs.rules ++ [⟨value, false⟩] }
      | '$' => proceed { inputs with rules := inputs.rules ++ [⟨value, true⟩] }
      | '&' =>
        load fun data =>
          proceed { inputs with rules := inputs.rules ++ (linesOf data).map fun line => ⟨rawText line, false⟩ }
      | 'u' => warn invocation "warning: --unix-byte-offsets (-u) is obsolete" fun _ => proceed inputs
      | _ => proceed inputs

def withoutEndSlashes (pattern : String) : String :=
  String.ofList (pattern.toList.reverse.dropWhile (· == '/')).reverse

def searchRequest (options : Options) (query : Query) (rules : List NameRule) (operands : Nat) : SearchRequest :=
  let quiet := options.has 'q'
  let lists := if quiet then none else (options.lastOf? ['l', 'L']).map (· == 'l')
  let context (letter : Char) : Option Nat :=
    ((options.value? letter).or (options.value? 'C')).bind fun word => (contextRule.lenient word).map Int.toNat
  let recursive := (options.given.reverse.find? fun (letter, _) => ['r', 'R', 'd'].contains letter)
  let directories := match recursive with
    | none => .opened
    | some ('d', value) => ((directoryChoices.choose value).toOption).getD .opened
    | some _ => .searched
  let binary := (options.given.reverse.find? fun (letter, _) => ['a', 'I', '%'].contains letter)
  let style : SearchStyle := {
    query
    numbered := options.has 'n'
    offsets := options.has 'b'
    onlyParts := options.has 'o'
    counting := options.has 'c' && lists.isNone && !quiet
    silent := quiet || lists.isSome
    before := context 'B'
    after := context 'A'
    separator := match options.given.reverse.find? fun (letter, _) => letter = '^' || letter = '#' with
      | some ('^', text) => some text
      | some _ => none
      | none => some "--"
    limit := ((options.value? 'm').bind limitRule.lenient).bind fun limit => if limit < 0 then none else some limit.toNat
    binaryPlan := match binary with
      | some ('a', _) => .searched
      | some ('%', "text") => .searched
      | some ('I', _) => .skipped
      | some ('%', "without-match") => .skipped
      | _ => .told
    mark := lineMark options
    aligned := options.has 'T'
    nullNames := options.has 'Z'
    coloured := ((options.value? '=').bind fun word => colourChoices.lookup word).getD false }
  {
    style, quiet, lists, directories
    named := match options.lastOf? ['h', 'H'] with
      | some letter => some (letter = 'H')
      | none => if 1 < operands then some true else none
    hushed := options.has 's'
    label := (options.value? '+').getD "(standard input)"
    follows := (options.lastOf? ['r', 'R']) == some 'R'
    skipsDevices := options.value? 'D' == some "skip"
    names := rules
    directoryNames := (options.given.filter (·.1 == '>')).map fun (_, value) => ⟨withoutEndSlashes value, false⟩ }

def searchWith (invocation : Invocation) (options : Options) (inputs : SearchInputs) (usage : List String) : Program :=
  let isGiven := options.has 'e' || options.has 'f'
  let operands := if isGiven then options.operands else options.operands.drop 1
  let patterns := (if isGiven then inputs.patterns else (options.operands.head?.elim [] patternsIn)).eraseDups
  let tell (texts : List String) : String := String.join (texts.map fun text => invocation.name ++ ": " ++ text ++ "\n")
  if !isGiven && options.operands.isEmpty then
    Program.complain (String.join ((usage ++ ["Try '" ++ invocation.name ++ " --help' for more information."]).map
      (· ++ "\n"))) fun _ => .exitWith 2
  else
    let kind := inputs.kind.getD .basic
    let inverted := options.has 'v'
    let folded := (options.lastOf? ['i', 'y', '!']).any (· != '!')
    let emptyPattern := !patterns.any (!·.text.isEmpty)
    let findsNothing := emptyPattern && (inverted != patterns.isEmpty) &&
      (patterns.isEmpty || !(options.has 'x' || options.has 'w'))
    let lacks := !options.has 'q' && options.lastOf? ['l', 'L'] == some 'L'
    let isNone := (options.value? 'm').bind limitRule.lenient == some 0
    if (isNone || findsNothing) && !lacks then .exitWith 1
    else if kind == .ordered && 1 < patterns.length then
      fail invocation "the -P option only supports a single pattern" 2
    else
      match readQuery kind folded inverted (options.has 'x') (options.has 'w') patterns with
      | .error texts => Program.complain (tell texts) fun _ => .exitWith 2
      | .ok query =>
        let request := searchRequest options query inputs.rules operands.length
        let recursive := request.directories == .searched
        let bare := operands.isEmpty && recursive
        let paths := if bare then ["."] else operandsOrInput operands
        let targets : List SearchTarget := paths.map fun path => { path, name := path }
        let run (_ : Unit) : Program :=
          searchTargets invocation request (request.named.getD false) bare Program.lifetime {} targets
        match patternWarnings kind patterns with
        | [] => run ()
        | warnings => Program.complain (tell warnings) run

def search : Utility := fun invocation =>
  let usage := ["Usage: " ++ invocation.name ++ " [OPTION]... PATTERNS [FILE]..."]
  let (options, fault) := readArguments searchTable {} invocation.arguments
  let isOddColour := (options.value? '=').any fun value => (colourChoices.lookup value).isNone
  let refuse (refusal : Refusal) : Program :=
    refuseFor invocation { refusal with details := refusal.details ++ if refusal.hinted then usage else [] } 2
  gatherSearch invocation refuse {} (fun inputs =>
      match fault with
      | some e => refuse { message := e.message }
      | none =>
        if options.has helpLetter || options.has versionLetter || options.has 'V' || isOddColour then .exitWith 0
        else searchWith invocation options inputs usage)
    options.given

end PipeShell.Utility
