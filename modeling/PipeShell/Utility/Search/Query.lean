import PipeShell.Text.Regex.Ordered
import PipeShell.Utility.Options

/-! # Queries

What lines are searched for: patterns in one of several dialects, and which of the
places where they match count. -/

set_option autoImplicit false

namespace PipeShell.Utility

inductive PatternKind where
  | basic
  | extended
  | fixed
  /-- The first match that is preferred counts, not the longest. -/
  | ordered
  deriving DecidableEq, Repr

/-- A pattern, with the file and the line that it comes from, if it does. -/
structure SearchPattern where
  text : Bytes
  origin : Option (String × Nat) := none
  deriving DecidableEq, Repr

structure Query where
  kind : PatternKind
  regex : Text.Regex
  folded : Bool := false
  /-- The lines without a match are wanted. -/
  inverted : Bool := false
  whole : Bool := false
  word : Bool := false

namespace Query

def matchAt? (query : Query) (line : Array UInt8) (place : Nat) : Option Text.Regex.End :=
  let ends := Text.Regex.ends query.folded line query.regex place []
  if query.kind == .ordered then ends.head?
  else
    let ends :=
      if query.whole then (if place = 0 then ends.filter (·.1 = line.size) else [])
      else if query.word then
        ends.filter fun (stop, _) => !Text.wordBefore line place && !Text.wordAt line stop
      else ends
    ends.foldl (fun best candidate =>
      match best with
      | none => some candidate
      | some found => if found.1 < candidate.1 then some candidate else best) none

/-- The first match at a place or behind it: where it begins and where it ends. -/
def find? (query : Query) (line : Array UInt8) (place : Nat) : Option (Nat × Nat) :=
  (Text.Regex.search (query.matchAt? line) (line.size + 1 - place) place).map fun (start, stop, groups) =>
    (((groups.lookup Text.Regex.markGroup).map (·.1)).getD start, stop)

def wants (query : Query) (line : Array UInt8) : Bool := (query.find? line 0).isSome != query.inverted

/-- The parts of a line that match, each with where it begins and ends, at most
`bound` of them. -/
def parts (query : Query) (line : Array UInt8) : Nat → Nat → List (Nat × Nat)
  | 0, _ => []
  | bound + 1, place =>
    match query.find? line place with
    | none => []
    | some (start, stop) =>
      if stop ≤ start then query.parts line bound (start + 1)
      else (start, stop) :: query.parts line bound stop

end Query

/-- The regular expression of a pattern that takes the whole line, or a whole word,
if only such are wanted. -/
def enclose (whole word : Bool) (regex : Text.Regex) : Text.Regex :=
  let letter := Text.Regex.byte (.among false Text.Regex.wordRanges)
  if whole then .sequence (.assertion .start) (.sequence regex (.assertion .finish))
  else if word then .sequence (.look true true letter) (.sequence regex (.look false true letter))
  else regex

def lacksBrackets : Nat → Bytes → Bool
  | 0, _ => false
  | _ + 1, [] => false
  | bound + 1, b :: rest =>
    if b = 92 then lacksBrackets bound (rest.drop 1)
    else if b = 91 then
      match Text.Regex.readBracket {} rest with
      | .error _ => false
      | .ok (_, behind) =>
        let inside := rest.take (rest.length - behind.length - 1)
        (inside.length > 1 && inside.head? == some 58 && inside.getLast? == some 58) || lacksBrackets bound behind
    else lacksBrackets bound rest

def SearchPattern.regex? (pattern : SearchPattern) (kind : PatternKind) : Except String Text.Regex :=
  let dialect : Text.RegexDialect := if kind == .extended then .extended else .basic
  match kind with
  | .fixed => .ok (Text.Regex.ofText pattern.text)
  | .ordered =>
    match Text.Regex.parseOrdered pattern.text with
    | .ok regex => .ok regex
    | .error e => .error e.message
  | _ =>
    match Text.Regex.parse dialect pattern.text with
    | .ok (regex, _) => .ok regex
    | .error e =>
      .error ((match pattern.origin with
        | some (file, line) => file ++ ":" ++ toString line ++ ": "
        | none => "") ++ e.message)

def idleText (letter : UInt8) : String :=
  if letter = Text.Regex.asciiByte '\x7b' then "\x7b...\x7d" else String.singleton (Char.ofNat letter.toNat)

def patternWarnings (kind : PatternKind) (patterns : List SearchPattern) : List String :=
  if kind != .extended then []
  else
    patterns.flatMap fun pattern =>
      (Text.Regex.idleRepetitions .extended (pattern.text.length + 1) true pattern.text).map fun letter =>
        "warning: " ++ idleText letter ++ " at start of expression"

/-- The query for patterns, or all that is wrong with them. Without any pattern no
line matches. -/
def readQuery (kind : PatternKind) (folded inverted whole word : Bool) (patterns : List SearchPattern) :
    Except (List String) Query :=
  let read := patterns.map fun pattern => pattern.regex? kind
  let faults := read.filterMap fun answer =>
    match answer with
    | .error text => some text
    | .ok _ => none
  let lacking := (kind == .basic || kind == .extended) && patterns.any fun pattern =>
    lacksBrackets (pattern.text.length + 1) pattern.text
  if !faults.isEmpty then .error faults
  else if lacking then .error ["character class syntax is [[:space:]], not [:space:]"]
  else
    match read.filterMap Except.toOption with
    | [] => .ok { kind, regex := .empty, folded, inverted := !inverted }
    | first :: others =>
      let regex := others.foldl Text.Regex.either first
      .ok { kind, regex := if kind == .ordered then enclose whole word regex else regex, folded, inverted, whole, word }

end PipeShell.Utility
