import PipeShell.Script.Command

/-! # Tokens of a script

The tokens that commands are made of, and the state of whoever reads them. A
backslash in front of a line end joins two lines and is never seen. -/

set_option autoImplicit false

namespace PipeShell.Script

/-- What stands in front of the target of a redirection. -/
inductive RedirectKind where
  | file (mode : FileMode)
  | duplicate
  /-- The target is the mark that ends a text in the script. Tabs at the
  beginnings of its lines may not count. -/
  | document (stripped : Bool)
  deriving DecidableEq, Repr

inductive Token where
  | endOfText
  | lineEnd
  | operator (symbol : String)
  | redirect (descriptor : Nat) (kind : RedirectKind)
  | word (word : Word) (quoted : Bool)
  /-- A word that has a meaning where it stands. -/
  | keyword (text : String)

namespace Token

def keywords : List String :=
  ["!", "case", "do", "done", "elif", "else", "esac", "fi", "for", "if", "in", "then", "until", "while", "\x7b",
    "\x7d"]

def shown : Token → String
  | .endOfText => "end of file"
  | .lineEnd => "newline"
  | .operator symbol => "\"" ++ symbol ++ "\""
  | .redirect _ _ => "redirection"
  | .word _ _ => "word"
  | .keyword text => "\"" ++ text ++ "\""

def isOperator (symbol : String) : Token → Bool
  | .operator other => other == symbol
  | _ => false

def isKeyword (text : String) : Token → Bool
  | .keyword other => other == text
  | _ => false

def endsList : Token → Bool
  | .endOfText => true
  | .operator symbol => symbol == ")" || symbol == ";;"
  | .keyword text => ["do", "done", "elif", "else", "esac", "fi", "then", "\x7d"].contains text
  | _ => false

end Token

structure Watch where
  keywords : Bool := false
  aliases : Bool := false
  lines : Bool := false
  /-- The token is the mark of a text, in which nothing is replaced. -/
  mark : Bool := false

/-- A text of the script that is still to come. -/
structure Awaited where
  number : Nat
  mark : String
  raw : Bool
  stripped : Bool

/-- Why a script cannot be read, and on which line. -/
structure ReadError where
  line : Nat
  message : String
  deriving DecidableEq, Repr

/-- An alias whose text is being read in place of its name. -/
structure OpenAlias where
  name : String
  /-- How much of the script is left when the text ends. -/
  left : Nat
  /-- The text ends with a blank, so that the word behind it may be an alias too. -/
  reaches : Bool
  deriving DecidableEq, Repr

structure Scanner where
  rest : List Char
  line : Nat := 1
  /-- A token that was read and then put back. -/
  pushed : Option Token := none
  watch : Watch := {}
  awaited : List Awaited := []
  /-- The texts that were read, by their numbers. -/
  documents : List (Nat × Word) := []
  nextDocument : Nat := 0
  aliases : List (String × String) := []
  /-- The aliases whose text is being read, the one read last in front. -/
  opened : List OpenAlias := []
  /-- The text of the script that is being read. Quotes need not end in it. -/
  document : Option Awaited := none
  /-- The script comes from the file or descriptor that the process reads. -/
  ofInput : Bool := false

abbrev Reading (α : Type) := StateT Scanner (Except ReadError) α

namespace Reading

def refuse {α : Type} (message : String) : Reading α := fun scanner => .error ⟨scanner.line, message⟩

def unexpected {α : Type} (token : Token) (wanted : Option String := none) : Reading α :=
  refuse (token.shown ++ " unexpected" ++ (match wanted with
    | some wanted => " (expecting " ++ wanted ++ ")"
    | none => ""))

def pushBack (token : Token) : Reading Unit := modify fun scanner => { scanner with pushed := some token }

def setWatch (watch : Watch) : Reading Unit := modify fun scanner => { scanner with watch }

def countLine : Reading Unit := modify fun scanner => { scanner with line := scanner.line + 1 }

def behindJoints (line : Nat) : List Char → List Char × Nat
  | '\\' :: '\n' :: rest => behindJoints (line + 1) rest
  | rest => (rest, line)

def nextRaw : Reading (Option Char) := fun scanner =>
  match scanner.rest with
  | [] => .ok (none, scanner)
  | c :: rest => .ok (some c, { scanner with rest })

def nextChar : Reading (Option Char) := fun scanner =>
  let (rest, line) := behindJoints scanner.line scanner.rest
  nextRaw { scanner with rest, line }

def giveBack (c : Option Char) : Reading Unit := modify fun scanner =>
  { scanner with rest := c.toList ++ scanner.rest }

/-- The characters at the beginning of a text that have a property, the text
behind them, and the line where that begins. -/
def spanJoined (property : Char → Bool) (line : Nat) : List Char → List Char × List Char × Nat
  | [] => ([], [], line)
  | c :: rest =>
    match c, rest with
    | '\\', '\n' :: rest => spanJoined property (line + 1) rest
    | c, rest =>
      if property c then
        let (taken, rest, line) := spanJoined property line rest
        (c :: taken, rest, line)
      else ([], c :: rest, line)

def takeWhile (property : Char → Bool) : Reading (List Char) := fun scanner =>
  let (taken, rest, line) := spanJoined property scanner.line scanner.rest
  .ok (taken, { scanner with rest, line })

def behindBlanks (comment : Bool) (line : Nat) : List Char → List Char × Nat
  | [] => ([], line)
  | c :: rest =>
    if c = '\n' then (c :: rest, line)
    else if comment then behindBlanks true line rest
    else if c = ' ' || c = '\t' then behindBlanks false line rest
    else if c = '#' then behindBlanks true line rest
    else
      match c, rest with
      | '\\', '\n' :: rest => behindBlanks false (line + 1) rest
      | c, rest => (c :: rest, line)

def skipBlanks : Reading Unit := modify fun scanner =>
  let (rest, line) := behindBlanks false scanner.line scanner.rest
  { scanner with rest, line }

/-- The text between backquotes with its escapes undone, what follows, and the
number of lines. Between double quotes, a quote may be escaped too. -/
def spanBackquoted (quoted : Bool) (done : List Char) (lines : Nat) : List Char → Option (List Char × List Char × Nat)
  | [] => none
  | c :: rest =>
    if c = '\x60' then some (done.reverse, rest, lines)
    else if c = '\\' then
      match rest with
      | '\n' :: rest => spanBackquoted quoted done (lines + 1) rest
      | d :: rest =>
        if d = '\\' || d = '\x60' || d = '$' || (quoted && d = '"') then spanBackquoted quoted (d :: done) lines rest
        else spanBackquoted quoted (d :: c :: done) lines rest
      | [] => none
    else spanBackquoted quoted (c :: done) (if c = '\n' then lines + 1 else lines) rest

def takeBackquoted (quoted : Bool) : Reading (List Char) := fun scanner =>
  match spanBackquoted quoted [] 0 scanner.rest with
  | some (body, rest, lines) => .ok (body, { scanner with rest, line := scanner.line + lines })
  | none =>
    .error ⟨scanner.line + scanner.rest.count '\n', "EOF in backquote substitution"⟩

def keepDocument (number : Nat) (text : Word) : Reading Unit := modify fun scanner =>
  { scanner with documents := (number, text) :: scanner.documents }

/-- Takes the rest of the line if it is the mark that ends a text; nothing
otherwise. Where no text is left, every mark counts. -/
def takeMark (mark : String) (stripped : Bool) : Reading Bool := fun scanner =>
  let rest := if stripped then scanner.rest.dropWhile (· = '\t') else scanner.rest
  if rest.isEmpty then .ok (true, { scanner with rest })
  else if rest.takeWhile (· != '\n') == mark.toList then
    .ok (true, { scanner with rest := (rest.dropWhile (· != '\n')).drop 1, line := scanner.line + 1 })
  else .ok (false, { scanner with rest })

/-- Whether nothing more belongs to the word that is being read, at the beginning of a line: at
the end of the script, and where the text of the script ends that is being read. -/
def takeEnd : Reading Bool := do
  let scanner ← get
  match scanner.document with
  | some awaited => takeMark awaited.mark awaited.stripped
  | none => return scanner.rest.isEmpty

/-- Takes a quoted text up to a closing mark, which may be missing. The bound is for the
number of lines. -/
def takeUntil (mark : Char) : Nat → List Char → Reading (Option (List Char))
  | 0, _ => return none
  | bound + 1, before => do
    let scanner ← get
    let taken := before ++ scanner.rest.takeWhile fun c => c != mark && c != '\n'
    match scanner.rest.dropWhile fun c => c != mark && c != '\n' with
    | [] =>
      set { scanner with rest := [] }
      return none
    | c :: rest =>
      set { scanner with rest }
      if c = mark then return some taken
      else
        countLine
        if ← takeEnd then return none else takeUntil mark bound (taken ++ [c])

def takeLine : Reading (List Char) := fun scanner =>
  let line := scanner.rest.takeWhile (· != '\n')
  match scanner.rest.dropWhile (· != '\n') with
  | [] => .ok (line, { scanner with rest := [] })
  | _ :: rest => .ok (line ++ ['\n'], { scanner with rest, line := scanner.line + 1 })

end Reading

structure Draft where
  /-- The pieces so far, the newest first. -/
  pieces : List Piece := []
  quoted : Bool := false

namespace Draft

def addLiteral (draft : Draft) (text : String) : Draft :=
  match draft.pieces with
  | .literal before :: pieces => { draft with pieces := .literal (before ++ text) :: pieces }
  | pieces => { draft with pieces := .literal text :: pieces }

def addQuoted (draft : Draft) (text : String) : Draft :=
  match draft.pieces with
  | .quoted before :: pieces => { pieces := .quoted (before ++ text) :: pieces, quoted := true }
  | pieces => { pieces := .quoted text :: pieces, quoted := true }

def add (draft : Draft) (piece : Piece) : Draft := { draft with pieces := piece :: draft.pieces }

/-- Adds what stood between double quotes. Nothing but all parameters makes as
many fields as there are parameters; everything else makes at least one. -/
def addBetweenQuotes (draft inner : Draft) : Draft :=
  match inner.pieces with
  | [.parameter "@" .value true] => { pieces := .parameter "@" .value true :: draft.pieces, quoted := true }
  | pieces => { pieces := pieces ++ (draft.addQuoted "").pieces, quoted := true }

def word (draft : Draft) : Word := draft.pieces.reverse

end Draft

inductive Place where
  | plain
  | double
  | document
  /-- In an arithmetic expression, so many parentheses deep. -/
  | arithmetic (depth : Nat)
  deriving DecidableEq, Repr

def Place.isQuoted (place : Place) : Bool := place != .plain

end PipeShell.Script
