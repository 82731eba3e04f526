import PipeShell.Script.Token

/-! # Reading a script

Commands are read by recursive descent, one line of the script after the other,
so that what one line does can be known before the next one is read. Words and
commands depend on each other: a word may hold a whole command. Every function
takes a bound on its depth, which the length of the script provides. -/

set_option autoImplicit false

namespace PipeShell.Script

open Reading

inductive ListKind where
  /-- At least one command, up to a token that ends lists. -/
  | body
  | line
  /-- Any number of commands, up to a token that ends lists. -/
  | any
  deriving DecidableEq, Repr

structure Simple where
  assignments : List (String × Word) := []
  words : List Word := []
  redirects : List Redirect := []

def Simple.isLone (simple : Simple) : Bool :=
  simple.words.length = 1 && simple.assignments.isEmpty && simple.redirects.isEmpty

def isWordEnd (c : Char) : Bool :=
  [' ', '\t', '\n', ';', '&', '|', '<', '>', '(', ')'].contains c

def specialParameters : List Char := ['#', '?', '$', '!', '-', '*', '@']

def Command.within (line : Nat) (body : Command) (redirects : List Redirect) : Command :=
  match redirects, body with
  | [], body => body
  | redirects, .subshell line body [] => .subshell line body redirects
  | redirects, body => .redirected line body redirects

def Word.markText (word : Word) : String :=
  String.join (word.map fun piece =>
    match piece with
    | .literal text => text
    | .quoted text => text
    | _ => "")

def readRedirect (sign : Char) (descriptor : Option Nat) : Reading Token := do
  let next ← nextChar
  if sign = '>' then
    let descriptor := descriptor.getD 1
    match next with
    | some '>' => return .redirect descriptor (.file .append)
    | some '|' => return .redirect descriptor (.file .replace)
    | some '&' => return .redirect descriptor .duplicate
    | next =>
      giveBack next
      return .redirect descriptor (.file .output)
  else
    let descriptor := descriptor.getD 0
    match next with
    | some '<' =>
      match ← nextChar with
      | some '-' => return .redirect descriptor (.document true)
      | next =>
        giveBack next
        return .redirect descriptor (.document false)
    | some '&' => return .redirect descriptor .duplicate
    | some '>' => return .redirect descriptor (.file .update)
    | next =>
      giveBack next
      return .redirect descriptor (.file .input)

def readRawDocument (awaited : Awaited) : Nat → String → Reading String
  | 0, text => return text
  | bound + 1, text => do
    if ← takeMark awaited.mark awaited.stripped then return text
    else readRawDocument awaited bound (text ++ String.ofList (← takeLine))

def streamDigit? (draft : Draft) : Option (Option Nat) :=
  if draft.quoted then none
  else
    match draft.pieces with
    | [] => some none
    | [.literal text] =>
      match text.toList with
      | [c] => if c.isDigit then some (some (c.toNat - '0'.toNat)) else none
      | _ => none
    | _ => none

def useOf? (sign : Char) (orNull : Bool) : Option (Word → Use) :=
  match sign with
  | '-' => some (.fallback orNull)
  | '=' => some (.supply orNull)
  | '?' => some (.require orNull)
  | '+' => some (.alternative orNull)
  | _ => none

/-- Ends the pieces of a word where no text is left for them, or tells what is missed. -/
def endPieces (place : Place) (braces : Bool) (draft : Draft) : Reading Draft := do
  match place with
  | .plain => if braces then refuse "Missing '\x7d'" else return draft
  | .double =>
    if (← get).document.isSome then refuse "Missing '\x7d'" else refuse "Unterminated quoted string"
  | .document => return draft
  | .arithmetic _ => refuse "Missing '))'"

mutual

/-- Reads pieces of a word up to where they end, which depends on the place; in
braces, they end with the closing brace. -/
def readPieces : Nat → Place → Bool → Draft → Reading Draft
  | 0, _, _, _ => refuse "Unterminated quoted string"
  | bound + 1, place, braces, draft => do
    match ← nextChar with
    | none => endPieces place braces draft
    | some c =>
      let keep (text : String) : Draft :=
        if place.isQuoted then { draft.addQuoted text with quoted := draft.quoted } else draft.addLiteral text
      if c = '$' then
        if (← get).watch.mark then readPieces bound place braces (keep "$")
        else
          match ← readDollar bound place with
          | some piece => readPieces bound place braces (draft.add piece)
          | none => readPieces bound place braces (keep "$")
      else if c = '\x60' then
        if (← get).watch.mark then readPieces bound place braces (keep "\x60")
        else
          let body ← takeBackquoted place.isQuoted
          let outside ← get
          set { outside with rest := body, line := 1, awaited := [], pushed := none, document := none }
          let command ← readList bound .any .nothing
          modify fun inside => { inside with
            rest := outside.rest, line := outside.line, awaited := outside.awaited, pushed := none, watch := {},
            document := outside.document }
          readPieces bound place braces (draft.add (.command (command.getD .nothing) place.isQuoted))
      else if c = '\x7d' && braces then return draft
      else if c = '\\' then
        match ← nextRaw with
        | none => readPieces bound place braces (draft.addQuoted "\\")
        | some d =>
          if d = '\n' then countLine
          let bare := !place.isQuoted || d = '\\' || d = '\x60' || d = '$' || (d = '"' && place != .document) ||
            (d = '\x7d' && braces)
          readPieces bound place braces (draft.addQuoted (String.ofList (if bare then [d] else ['\\', d])))
      else if c = '\n' then
        if place = .plain && !braces then
          giveBack (some c)
          return draft
        else
          countLine
          if place = .document then return keep "\n"
          else if ← takeEnd then endPieces place braces draft
          else readPieces bound place braces (keep "\n")
      else
        match place with
        | .plain =>
          if c = '\'' then
            match ← takeUntil '\'' bound [] with
            | none => endPieces .double braces draft
            | some text => readPieces bound place braces (draft.addQuoted (String.ofList text))
          else if c = '"' then
            let inner ← readPieces bound .double false {}
            readPieces bound place braces (draft.addBetweenQuotes inner)
          else if isWordEnd c && !braces then
            giveBack (some c)
            return draft
          else readPieces bound place braces (draft.addLiteral (String.singleton c))
        | .double =>
          if c = '"' then
            if braces then
              let inner ← readPieces bound .double false {}
              readPieces bound place braces { draft with pieces := inner.pieces ++ draft.pieces }
            else return draft
          else readPieces bound place braces (keep (String.singleton c))
        | .document => readPieces bound place braces (keep (String.singleton c))
        | .arithmetic depth =>
          if c = '(' then readPieces bound (.arithmetic (depth + 1)) braces (keep "(")
          else if c = ')' then
            if depth > 0 then readPieces bound (.arithmetic (depth - 1)) braces (keep ")")
            else
              match ← nextChar with
              | some ')' => return draft
              | next =>
                giveBack next
                readPieces bound place braces (keep ")")
          else readPieces bound place braces (keep (String.singleton c))

def readDollar : Nat → Place → Reading (Option Piece)
  | 0, _ => return none
  | bound + 1, place => do
    let quoted := place.isQuoted
    match ← nextChar with
    | some '(' =>
      match ← nextChar with
      | some '(' =>
        let body ← readPieces bound (.arithmetic 0) false {}
        return some (.arithmetic body.word quoted)
      | next =>
        giveBack next
        let outside ← get
        set { outside with awaited := [], pushed := none, document := none }
        let command ← readList bound .any .nothing
        let token ← readToken bound
        if token.isOperator ")" then
          let inside ← get
          inside.awaited.forM fun awaited => keepDocument awaited.number []
          modify fun inside => { inside with
            awaited := outside.awaited, watch := {}, document := outside.document }
          return some (.command (command.getD .nothing) quoted)
        else unexpected token (some "\")\"")
    | some c =>
      if c = '\x7b' then return some (← readBraces bound place)
      else if isNameStart c then
        let rest ← takeWhile isNameChar
        return some (.parameter (String.ofList (c :: rest)) .value quoted)
      else if c.isDigit || specialParameters.contains c then
        return some (.parameter (String.singleton c) .value quoted)
      else
        giveBack (some c)
        return none
    | none => return none

def readBraces : Nat → Place → Reading Piece
  | 0, _ => refuse "Missing '\x7d'"
  | bound + 1, place => do
    let quoted := place.isQuoted
    let inner : Place := if quoted then .double else .plain
    let faulty : Reading Piece := do
      let _ ← readPieces bound inner true {}
      return .parameter "" .faulty quoted
    let named (name : String) : Reading Piece := do
      let next ← nextChar
      match next with
      | some '%' | some '#' =>
        let again ← nextChar
        let longest := again == next
        if !longest then giveBack again
        let pattern ← readPieces bound .plain true {}
        return .parameter name (.cut (next == some '%') longest pattern.word) quoted
      | some ':' =>
        match ← nextChar with
        | some sign =>
          match useOf? sign true with
          | some use => return .parameter name (use (← readPieces bound inner true {}).word) quoted
          | none => faulty
        | none => faulty
      | some sign =>
        if sign = '\x7d' then return .parameter name .value quoted
        else
          match useOf? sign false with
          | some use => return .parameter name (use (← readPieces bound inner true {}).word) quoted
          | none => faulty
      | none => faulty
    let measured (name : String) : Reading Piece := do
      match ← nextChar with
      | some c =>
        if c = '\x7d' then return .parameter name .length quoted
        else
          giveBack (some c)
          faulty
      | none => faulty
    let nameFrom (c : Char) : Reading String := do
      if isNameStart c then return String.ofList (c :: (← takeWhile isNameChar))
      else return String.ofList (c :: (← takeWhile Char.isDigit))
    match ← nextChar with
    | none => faulty
    | some c =>
      if isNameStart c || c.isDigit then named (← nameFrom c)
      else if c = '\x7d' then
        giveBack (some c)
        faulty
      else if c = '#' then
        match ← nextChar with
        | none => faulty
        | some d =>
          if isNameChar d then measured (← nameFrom d)
          else
            let next ← nextChar
            if d = '\x7d' || next != some '\x7d' then
              giveBack next
              giveBack (some d)
              named "#"
            else if specialParameters.contains d then
              giveBack next
              measured (String.singleton d)
            else
              giveBack next
              faulty
      else if specialParameters.contains c then named (String.singleton c)
      else faulty

def readBareToken : Nat → Reading Token
  | 0 => return .endOfText
  | bound + 1 => do
    match (← get).pushed with
    | some token =>
      modify fun scanner => { scanner with pushed := none }
      return token
    | none =>
      skipBlanks
      match ← nextChar with
      | none => return .endOfText
      | some c =>
        if c = '\n' then
          countLine
          return .lineEnd
        else if c = '(' || c = ')' then return .operator (String.singleton c)
        else if c = '&' || c = '|' || c = ';' then
          let next ← nextChar
          if next == some c then return .operator (String.ofList [c, c])
          else
            giveBack next
            return .operator (String.singleton c)
        else
          giveBack (some c)
          let draft ← readPieces bound .plain false {}
          match ← nextChar, streamDigit? draft with
          | some '>', some descriptor => readRedirect '>' descriptor
          | some '<', some descriptor => readRedirect '<' descriptor
          | next, _ =>
            giveBack next
            return .word draft.word draft.quoted

def readToken : Nat → Reading Token
  | 0 => return .endOfText
  | bound + 1 => do
    let before ← get
    let token ← readBareToken bound
    let token ← if before.watch.lines then skipLines bound token else pure token
    setWatch {}
    let left := (← get).rest.length
    let passed := before.opened.any fun passed => passed.reaches && passed.left < before.rest.length && left ≤ passed.left
    let watch := { before.watch with aliases := before.watch.aliases || passed }
    match token with
    | .word word false =>
      match word.bare? with
      | none => return token
      | some text =>
        if watch.keywords && Token.keywords.contains text then return .keyword text
        else if watch.aliases then readAlias bound watch text token
        else return token
    | token => return token

/-- Replaces a word by its alias and reads on, unless it has none or the alias
is just being read. -/
def readAlias : Nat → Watch → String → Token → Reading Token
  | 0, _, _, token => return token
  | bound + 1, watch, text, token => do
    let scanner ← get
    match scanner.aliases.lookup text with
    | none => return token
    | some value =>
      let left := scanner.rest.length
      if scanner.opened.any fun opened => opened.name == text && opened.left ≤ left then return token
      else
        set { scanner with
          rest := value.toList ++ scanner.rest
          opened := ⟨text, left, (value.toList.getLast?.map fun c => c = ' ' || c = '\t').getD false⟩ :: scanner.opened
          watch }
        readToken bound

def skipLines : Nat → Token → Reading Token
  | 0, token => return token
  | bound + 1, token => do
    match token with
    | .lineEnd =>
      readDocuments bound
      setWatch {}
      skipLines bound (← readBareToken bound)
    | token => return token

def readDocuments : Nat → Reading Unit
  | 0 => return ()
  | bound + 1 => do
    let scanner ← get
    match scanner.awaited with
    | [] => return ()
    | awaited :: rest =>
      set { scanner with awaited := rest }
      let text ←
        if awaited.raw then do
          let text ← readRawDocument awaited (scanner.rest.length + 1) ""
          pure [Piece.quoted text]
        else do
          let draft ← readDocument bound awaited {}
          pure draft.word
      keepDocument awaited.number text
      readDocuments bound

def readDocument : Nat → Awaited → Draft → Reading Draft
  | 0, _, draft => return draft
  | bound + 1, awaited, draft => do
    if ← takeMark awaited.mark awaited.stripped then
      modify fun scanner => { scanner with document := none }
      return draft
    else
      modify fun scanner => { scanner with document := some awaited }
      readDocument bound awaited (← readPieces bound .document false draft)

def readTarget : Nat → Nat → RedirectKind → Reading Redirect
  | 0, _, _ => refuse "end of file unexpected"
  | bound + 1, descriptor, kind => do
    match kind with
    | .document _ => setWatch { mark := true }
    | _ => pure ()
    match ← readToken bound with
    | .word word quoted =>
      match kind with
      | .file mode => return .file descriptor mode word
      | .duplicate => return .duplicate descriptor word
      | .document stripped =>
        let scanner ← get
        let awaited : Awaited := { number := scanner.nextDocument, mark := word.markText, raw := quoted, stripped }
        set { scanner with nextDocument := scanner.nextDocument + 1, awaited := scanner.awaited ++ [awaited] }
        return .document descriptor awaited.number
    | token => unexpected token

def readRedirects : Nat → List Redirect → Reading (List Redirect)
  | 0, done => return done.reverse
  | bound + 1, done => do
    match ← readToken bound with
    | .redirect descriptor kind => readRedirects bound ((← readTarget bound descriptor kind) :: done)
    | token =>
      pushBack token
      return done.reverse

/-- Reads a list of commands behind those that were already read; nothing at the
end of the script. -/
def readList : Nat → ListKind → Command → Reading (Option Command)
  | 0, _, _ => refuse "end of file unexpected"
  | bound + 1, kind, before => do
    setWatch { keywords := true, aliases := true, lines := kind != .line }
    let started := match before with
      | .nothing => false
      | _ => true
    match ← readToken bound with
    | .lineEnd =>
      readDocuments bound
      return some before
    | .endOfText =>
      readDocuments bound
      pushBack .endOfText
      if kind = .line && !started then return none
      else return some before
    | token =>
      pushBack token
      if token.endsList && (kind = .any || kind = .body && started) then return some before
      else
        let command ← readAndOr bound
        let token ← readToken bound
        let command := if token.isOperator "&" then .background command else command
        let joined := if started then .sequence before command else command
        match token with
        | .lineEnd | .endOfText =>
          pushBack token
          readList bound kind joined
        | .operator symbol =>
          if symbol == "&" || symbol == ";" then readList bound kind joined
          else if kind = .line then unexpected token
          else
            pushBack token
            return some joined
        | token =>
          if kind = .line then unexpected token
          else
            pushBack token
            return some joined

def readBody : Nat → ListKind → Reading Command
  | 0, _ => refuse "end of file unexpected"
  | bound + 1, kind => do return (← readList bound kind .nothing).getD .nothing

def readAndOr : Nat → Reading Command
  | 0 => refuse "end of file unexpected"
  | bound + 1 => do readAndOrTail bound (← readPipeline bound)

def readAndOrTail : Nat → Command → Reading Command
  | 0, first => return first
  | bound + 1, first => do
    let token ← readToken bound
    if token.isOperator "&&" || token.isOperator "||" then
      setWatch { keywords := true, aliases := true, lines := true }
      let second ← readPipeline bound
      readAndOrTail bound (if token.isOperator "&&" then .both first second else .either first second)
    else
      pushBack token
      return first

def readPipeline : Nat → Reading Command
  | 0 => refuse "end of file unexpected"
  | bound + 1 => do
    let token ← readToken bound
    let negated := token.isKeyword "!"
    if negated then setWatch { keywords := true, aliases := true } else pushBack token
    let stages ← readStages bound [← readCommand bound]
    let body :=
      match stages with
      | [only] => only
      | stages => .pipe stages
    return if negated then .negated body else body

def readStages : Nat → List Command → Reading (List Command)
  | 0, done => return done.reverse
  | bound + 1, done => do
    let token ← readToken bound
    if token.isOperator "|" then
      setWatch { keywords := true, aliases := true, lines := true }
      readStages bound ((← readCommand bound) :: done)
    else
      pushBack token
      return done.reverse

def expect : Nat → String → Reading Unit
  | 0, _ => return ()
  | bound + 1, wanted => do
    let token ← readToken bound
    if token.isKeyword wanted || token.isOperator wanted then return ()
    else unexpected token (some ("\"" ++ wanted ++ "\""))

def readCommand : Nat → Reading Command
  | 0 => refuse "end of file unexpected"
  | bound + 1 => do
    let line := (← get).line
    let token ← readToken bound
    let compound (body : Command) : Reading Command := do
      setWatch { keywords := true, aliases := true }
      return body.within line (← readRedirects bound [])
    match token with
    | .word _ _ =>
      pushBack token
      readSimple bound line {} true
    | .redirect _ _ =>
      pushBack token
      readSimple bound line {} true
    | .operator "(" =>
      let body ← readBody bound .body
      expect bound ")"
      compound (.subshell line body [])
    | .keyword "\x7b" =>
      let body ← readBody bound .body
      expect bound "\x7d"
      compound body
    | .keyword "if" => compound (← readIf bound)
    | .keyword "while" => compound (← readLoop bound false)
    | .keyword "until" => compound (← readLoop bound true)
    | .keyword "for" => compound (← readFor bound line)
    | .keyword "case" => compound (← readCase bound line)
    | token => unexpected token

def readIf : Nat → Reading Command
  | 0 => refuse "end of file unexpected"
  | bound + 1 => do
    let condition ← readBody bound .body
    expect bound "then"
    let positive ← readBody bound .body
    let token ← readToken bound
    if token.isKeyword "elif" then return .conditional condition positive (← readIf bound)
    else if token.isKeyword "else" then
      let negative ← readBody bound .body
      expect bound "fi"
      return .conditional condition positive negative
    else
      pushBack token
      expect bound "fi"
      return .conditional condition positive .nothing

def readLoop : Nat → Bool → Reading Command
  | 0, _ => refuse "end of file unexpected"
  | bound + 1, untilSuccess => do
    let condition ← readBody bound .body
    expect bound "do"
    let body ← readBody bound .body
    expect bound "done"
    return .loop untilSuccess condition body

def readWords : Nat → List Word → Reading (List Word × Token)
  | 0, done => return (done.reverse, .endOfText)
  | bound + 1, done => do
    match ← readToken bound with
    | .word word _ => readWords bound (word :: done)
    | token => return (done.reverse, token)

def readFor : Nat → Nat → Reading Command
  | 0, _ => refuse "end of file unexpected"
  | bound + 1, line => do
    let token ← readToken bound
    let name? :=
      match token with
      | .word word false => word.bare?.filter isName
      | _ => none
    match name? with
    | none => refuse "Bad for loop variable"
    | some name =>
      setWatch { keywords := true, aliases := true, lines := true }
      let token ← readToken bound
      let words ←
        if token.isKeyword "in" then do
          let (words, token) ← readWords bound []
          match token with
          | .lineEnd => pure words
          | token => if token.isOperator ";" then pure words else unexpected token
        else do
          if !token.isOperator ";" then pushBack token
          pure [[Piece.parameter "@" .value true]]
      setWatch { keywords := true, aliases := true, lines := true }
      expect bound "do"
      let body ← readBody bound .body
      expect bound "done"
      return .each line name words body

def readCase : Nat → Nat → Reading Command
  | 0, _ => refuse "end of file unexpected"
  | bound + 1, line => do
    match ← readToken bound with
    | .word word _ =>
      setWatch { keywords := true, aliases := true, lines := true }
      expect bound "in"
      setWatch { keywords := true, lines := true }
      return .choose line word (← readCases bound (← readToken bound) [])
    | token => unexpected token (some "word")

def readCases : Nat → Token → List (List Word × Command) → Reading (List (List Word × Command))
  | 0, _, _ => refuse "end of file unexpected"
  | bound + 1, token, done => do
    if token.isKeyword "esac" then return done.reverse
    else
      let token ← if token.isOperator "(" then readToken bound else pure token
      let (patterns, token) ← readPatterns bound token []
      if !token.isOperator ")" then unexpected token (some "\")\"")
      else
        let body ← readBody bound .any
        let done := (patterns, body) :: done
        setWatch { keywords := true, lines := true }
        let token ← readToken bound
        if token.isKeyword "esac" then return done.reverse
        else if token.isOperator ";;" then
          setWatch { keywords := true, lines := true }
          readCases bound (← readToken bound) done
        else unexpected token (some "\";;\"")

def readPatterns : Nat → Token → List Word → Reading (List Word × Token)
  | 0, token, done => return (done.reverse, token)
  | bound + 1, token, done => do
    let pattern : Word :=
      match token with
      | .word word _ => word
      | .keyword text => [.literal text]
      | _ => []
    let token ← readToken bound
    if token.isOperator "|" then readPatterns bound (← readToken bound) (pattern :: done)
    else return ((pattern :: done).reverse, token)

/-- Reads the words and redirections of a simple command. `leading` tells that
only assignments came so far. -/
def readSimple : Nat → Nat → Simple → Bool → Reading Command
  | 0, _, _, _ => refuse "end of file unexpected"
  | bound + 1, line, simple, leading => do
    setWatch { aliases := leading }
    let token ← readToken bound
    match token with
    | .word word _ =>
      match (if leading then assignment? word else none) with
      | some assignment =>
        readSimple bound line { simple with assignments := simple.assignments ++ [assignment] } true
      | none => readSimple bound line { simple with words := simple.words ++ [word] } false
    | .redirect descriptor kind =>
      let redirect ← readTarget bound descriptor kind
      readSimple bound line { simple with redirects := simple.redirects ++ [redirect] } leading
    | token =>
      if token.isOperator "(" && simple.isLone then
        expect bound ")"
        match (simple.words.head?).bind Word.bare? with
        | none => refuse "Bad function name"
        | some name =>
          if !isName name || specialNames.contains name then refuse "Bad function name"
          else
            setWatch { keywords := true, aliases := true, lines := true }
            let line := (← get).line
            return .define line name (← readCommand bound)
      else
        pushBack token
        return .simple line simple.assignments simple.words simple.redirects

end

def Scanner.ofText (text : String) (firstDocument : Nat := 0) (aliases : List (String × String) := []) : Scanner :=
  { rest := text.toList, nextDocument := firstDocument, aliases }

def Scanner.bound (scanner : Scanner) : Nat := 16 * scanner.rest.length + 64

def Scanner.nextCommand (scanner : Scanner) : Except ReadError (Option Command × Scanner) :=
  readList scanner.bound .line .nothing { scanner with pushed := none, watch := {} }

/-- A text as a word in which everything is replaced that is replaced in texts of a
script. -/
def textWord (text : String) : Word :=
  let scanner := Scanner.ofText text
  match readDocument scanner.bound { number := 0, mark := "\n", raw := false, stripped := false } {} scanner with
  | .ok (draft, _) => draft.word
  | .error _ => [.literal text]

def Scanner.blockSize : Nat := 8192

/-- The aliases whose text is not yet read to its end, with a change of what is left
when it ends. -/
def Scanner.reopen (scanner : Scanner) (change : Nat → Nat) : List OpenAlias :=
  (scanner.opened.filter (·.left < scanner.rest.length)).map fun opened => { opened with left := change opened.left }

def Scanner.extend (scanner : Scanner) (text : List Char) : Scanner :=
  { scanner with rest := scanner.rest ++ text, opened := scanner.reopen (· + text.length) }

/-- The commands of the next line of a script, if nothing that may follow the known
text can change what they are: then a character more behind the text is left
over. -/
def Scanner.completeCommand? (scanner : Scanner) : Option (Command × Scanner) :=
  if scanner.rest.isEmpty then none
  else
    match (scanner.extend ['x']).nextCommand with
    | .ok (some command, after) =>
      if after.rest.isEmpty then none
      else some (command, { after with rest := after.rest.dropLast, opened := after.reopen (· - 1) })
    | _ => none

def Scanner.isDone (scanner : Scanner) : Bool :=
  match scanner.pushed with
  | some .endOfText => true
  | _ => false

end PipeShell.Script
