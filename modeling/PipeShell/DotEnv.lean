import PipeShell.Environment
import PipeShell.System.OpenFile
import PipeShell.Text.Alphanumeric
import PipeShell.Text.Blank

/-! # Files of variables

A file of variables holds one assignment a line. It stands in the working
directory or in one of its parents, and what it says counts only for variables
that are not yet set. Reading stops silently at the first line that is
malformed; the lines in front of it keep their effect. -/

set_option autoImplicit false

namespace PipeShell.DotEnv

open PipeShell.System

def fileName : String := ".env.development"

/-- Where the reader stands in a reference to a variable. -/
inductive Reference where
  | outside
  /-- Behind a dollar sign. -/
  | plain
  /-- Between braces. -/
  | braced
  deriving DecidableEq, Repr

/-- The state of the reader in the middle of a value. -/
structure Reader where
  /-- The value so far, its last character first. -/
  value : List Char := []
  /-- Between single quotes. -/
  strong : Bool := false
  /-- Between double quotes. -/
  weak : Bool := false
  /-- Behind a backslash. -/
  escaped : Bool := false
  /-- Behind the value, where only blanks and a comment may follow. -/
  ended : Bool := false
  /-- Inside the comment. -/
  comment : Bool := false
  reference : Reference := .outside
  /-- The name in a reference, its last character first. -/
  name : List Char := []
  deriving DecidableEq, Repr

namespace Reader

def push (reader : Reader) (c : Char) : Reader := { reader with value := c :: reader.value }

/-- Ends a reference: the value of the variable takes its place. -/
def resolve (lookup : String → String) (reader : Reader) : Reader :=
  { reader with
    value := (lookup (String.ofList reader.name.reverse)).toList.reverse ++ reader.value
    reference := .outside
    name := [] }

/-- Reads one character; nothing if the value is malformed there. -/
def read (lookup : String → String) (reader : Reader) (c : Char) : Option Reader :=
  if reader.comment then some reader
  else if reader.ended then
    if c = ' ' || c = '\t' then some reader
    else if c = '#' then some { reader with comment := true }
    else none
  else if reader.escaped then
    let plain := { reader with escaped := false }
    if ['\\', '\'', '"', '$', ' '].contains c then some (plain.push c)
    else if c = 'n' then some (plain.push '\n')
    else none
  else if reader.strong then
    some (if c = '\'' then { reader with strong := false } else reader.push c)
  else
    match reader.reference with
    | .plain =>
      if Text.isAlphanumeric c then some { reader with name := c :: reader.name }
      else if c = '\x7b' && reader.name.isEmpty then some { reader with reference := .braced }
      else
        let after := reader.resolve lookup
        some (if c = '$' then { after with reference := .plain } else after.push c)
    | .braced =>
      if c = '\x7d' then some (reader.resolve lookup) else some { reader with name := c :: reader.name }
    | .outside =>
      if c = '$' then some { reader with reference := .plain }
      else if reader.weak then
        some (if c = '"' then { reader with weak := false }
          else if c = '\\' then { reader with escaped := true }
          else reader.push c)
      else if c = '\'' then some { reader with strong := true }
      else if c = '"' then some { reader with weak := true }
      else if c = '\\' then some { reader with escaped := true }
      else if c = ' ' || c = '\t' then some { reader with ended := true }
      else some (reader.push c)

/-- The value, once all characters are read; nothing if a quote or a brace is
still open. -/
def close (lookup : String → String) (reader : Reader) : Option String :=
  if reader.reference = .braced || reader.strong || reader.weak then none
  else some (String.ofList (reader.resolve lookup).value.reverse)

end Reader

def readValue (lookup : String → String) (text : List Char) : Option String :=
  (text.foldlM (Reader.read lookup) {}).bind (Reader.close lookup)

/-- The name at the beginning of the text, and what follows it. -/
def readName (text : List Char) : Option (String × List Char) :=
  let isPart (c : Char) : Bool := c.isAlphanum || c = '_' || c = '.'
  match text with
  | [] => none
  | first :: _ =>
    if first.isAlpha || first = '_' then
      some (String.ofList (text.takeWhile isPart), text.dropWhile isPart)
    else none

def readEquals (text : List Char) : Option (List Char) :=
  match text with
  | '=' :: rest => some rest
  | _ => none

/-- The name and the text of the value on a line. The word `export` may stand in
front of the name, and it may itself be the name. -/
def readAssignment (text : List Char) : Option (String × List Char) := do
  let (name, rest) ← readName text
  let rest := Text.trimStart rest
  match readEquals rest with
  | some value => some (name, value)
  | none =>
    if name == "export" then
      let (name, rest) ← readName rest
      let value ← readEquals (Text.trimStart rest)
      some (name, value)
    else none

inductive Entry where
  | nothing
  | assignment (name value : String)
  | malformed
  deriving DecidableEq, Repr

def readLine (lookup : String → String) (line : List Char) : Entry :=
  let text := Text.trimStart (Text.trimEnd line)
  if text.isEmpty || text.head? == some '#' then .nothing
  else
    match readAssignment text with
    | none => .malformed
    | some (name, rest) =>
      let value := Text.trimStart rest
      if value.isEmpty || value.head? == some '#' then .assignment name ""
      else
        match readValue lookup value with
        | some value => .assignment name value
        | none => .malformed

/-- The lines of a file, each without its line end. -/
def splitLines (data : Bytes) : List Bytes :=
  let pieces := data.splitOn 10
  let complete := pieces.dropLast.map fun line => if line.getLast? == some 13 then line.dropLast else line
  let tail := pieces.getLastD []
  if tail.isEmpty then complete else complete ++ [tail]

/-- Carries out lines one after the other. `earlier` holds what the lines so far
assigned, whether or not it had an effect. -/
def applyLines (environment : Environment) (earlier : Environment) : List Bytes → Environment
  | [] => environment
  | line :: rest =>
    match Text.decode? line with
    | none => environment
    | some text =>
      let lookup (name : String) : String := ((environment.after? name).or (earlier.get? name)).getD ""
      match readLine lookup text with
      | .nothing => applyLines environment earlier rest
      | .malformed => environment
      | .assignment name value =>
        applyLines (environment.setDefault name value) (earlier.set name value) rest

/-- The path of the file for a directory: its own, or that of the nearest parent
that has one. Anything but a missing file ends the search. -/
def locate (files : FileSystem) (viewer : Viewer) : List String → Option String
  | [] => none
  | directory :: parents =>
    let path := Path.join directory fileName
    match files.stat viewer path with
    | .ok (_, node) => if node.isFile then some path else locate files viewer parents
    | .error failure => if failure.kindOf = .notFound then locate files viewer parents else none

def lineage (location : Location) : List String :=
  ((List.range (location.length + 1)).map fun count => Location.path (location.take count)).reverse

/-- The environment together with what the file of variables adds to it. -/
def load (files : FileSystem) (viewer : Viewer) (environment : Environment) : Environment :=
  match locate files viewer (lineage viewer.directory) with
  | none => environment
  | some path =>
    match files.openRead viewer path with
    | .error _ => environment
    | .ok file =>
      match files.readToEnd file with
      | .ok data => applyLines environment .empty (splitLines data)
      | .error _ => environment

end PipeShell.DotEnv
