import PipeShell.Process.Invocation

/-! # What a call starts

A file that can be executed is a program of the system, or a script whose first
line names its interpreter. The interpreter is a file again, and the words of the
call change with every script on the way. A binary may name a file as well, which is
to load it; but there is nothing that could carry out its code, so it is refused even
if the loader is there.

A name with a slash is the path of such a file. Any other name is looked for in the
directories of the search path, one after the other. -/

set_option autoImplicit false

namespace PipeShell.Host

open PipeShell.System

/-! ## Files -/

/-- The most bytes that one argument may have, its end included. -/
def argumentLimit : Nat := 131072

/-- The most bytes that all arguments and variables may take together. -/
def argumentsLimit : Nat := 2097152

/-- Whether arguments and variables are more than a program can be given. -/
def overflows (environment : Environment) (words : List String) : Bool :=
  let texts := words ++ environment.bindings.map fun (name, value) => name ++ "=" ++ value
  texts.any (argumentLimit ≤ ·.utf8ByteSize) ||
    argumentsLimit < texts.foldl (fun size text => size + text.utf8ByteSize + 9) 0

/-- The interpreter that a script names, with an argument for it, or the loader that a binary
asks for. -/
structure Interpreter where
  path : String
  argument : Option String := none
  loads : Bool := false
  deriving DecidableEq, Repr

namespace Interpreter

/-- How many bytes at the beginning of a file tell what it is. -/
def window : Nat := 256

def isBlank (byte : UInt8) : Bool := byte = 32 || byte = 9

def trimEnd (bytes : Bytes) : Bytes := (bytes.reverse.dropWhile isBlank).reverse

/-- The interpreter that a line names, if it names one. A zero byte ends the name
and the argument. -/
def ofLine? (line : Bytes) : Option Interpreter :=
  let line := (trimEnd line).dropWhile isBlank
  if line.isEmpty then none
  else
    let name := line.takeWhile fun byte => !isBlank byte && byte != 0
    let argument :=
      match line.drop name.length with
      | [] => none
      | first :: rest => if first = 0 then none else some ((rest.dropWhile isBlank).takeWhile (· != 0))
    some { path := rawText name, argument := argument.map rawText }

/-- The interpreter that the beginning of a script names, if it names one. What lies
behind the end of the file counts as zero bytes. A line that does not end within
what is looked at must at least have its interpreter end there. -/
def ofScript? (content : Bytes) : Option Interpreter :=
  let seen := content.take window
  match seen ++ List.replicate (window - seen.length) 0 with
  | 35 :: 33 :: text =>
    let line := text.takeWhile fun byte => byte != 10 && byte != 0
    if text[line.length]? == some 10 then ofLine? line
    else
      let name := text.dropWhile isBlank
      if name.all fun byte => !isBlank byte && byte != 0 then none else ofLine? text.dropLast
  | _ => none

/-- The number that some bytes from an offset on stand for, the least significant first. -/
def field (content : Bytes) (offset size : Nat) : Nat :=
  ((content.drop offset).take size).foldr (fun byte rest => byte.toNat + 256 * rest) 0

/-- The size of an entry in the table of the parts of a binary. -/
def partSize : Nat := 56

/-- The table of the parts of a binary, if the file is one for this kind of machine. -/
def parts? (content : Bytes) : Option (List Bytes) :=
  let kind := field content 16 2
  let size := partSize * field content 56 2
  let table := (content.drop (field content 32 8)).take size
  if [0x7f, 0x45, 0x4c, 0x46].isPrefixOf content && (kind = 2 || kind = 3) && field content 18 2 = 62 &&
      field content 54 2 = partSize && 0 < size && size ≤ 65536 && table.length = size then
    some ((List.range (field content 56 2)).map fun index => (table.drop (partSize * index)).take partSize)
  else none

/-- The loader that a binary asks for, or why the file is not started. -/
def ofBinary (content : Bytes) : Except Errno Interpreter :=
  match (parts? content).bind fun parts => parts.find? (field · 0 4 = 3) with
  | none => .error .notExecutable
  | some part =>
    let length := field part 32 8
    let text := (content.drop (field part 8 8)).take length
    if length < 2 || pathLimit < length then .error .notExecutable
    else if text.length < length then .error .inputOutput
    else if text.getLast? != some 0 then .error .notExecutable
    else .ok { path := rawText (text.takeWhile (· != 0)), loads := true }

/-- What a file with this content asks for, or why it is not started. -/
def ofContent (content : Bytes) : Except Errno Interpreter :=
  match ofScript? content with
  | some interpreter => .ok interpreter
  | none => ofBinary content

end Interpreter

/-- A program of the system with all words of its call. -/
structure Image where
  program : String
  /-- The name it is called by and its arguments. -/
  words : List String
  deriving DecidableEq, Repr

def scriptLimit : Nat := 5

/-- What the node at a path is as something that can be executed. -/
def execute? (files : FileSystem) (viewer : Viewer) (path : String) : Except Failure Node :=
  match files.stat viewer path with
  | .error failure => .error failure
  | .ok (_, node) =>
    if node.isFile && (files.attributesOf node).allows viewer.user .execute then .ok node
    else .error (.os .accessDenied)

/-- What a node starts when it is called with some words, after at most `levels`
scripts. -/
def imageOf (files : FileSystem) (viewer : Viewer) : Nat → String → Node → List String → Except Failure Image
  | _, _, .program name, words => .ok ⟨name, words⟩
  | levels, path, node, words =>
    match Interpreter.ofContent ((files.fileOf? node).elim [] File.content) with
    | .error errno => .error (.os errno)
    | .ok interpreter =>
      match execute? files viewer interpreter.path with
      | .error failure => .error (if interpreter.path.isEmpty then .os .accessDenied else failure)
      | .ok node =>
        if interpreter.loads then .error (.os .notExecutable)
        else
          match levels with
          | 0 => .error (.os .tooManyLinks)
          | levels + 1 =>
            imageOf files viewer levels interpreter.path node
              (interpreter.path :: (interpreter.argument.toList ++ path :: words.tail))

/-- What the file at a path starts when it is called with some words. -/
def load (files : FileSystem) (viewer : Viewer) (environment : Environment) (path : String) (words : List String) :
    Except Failure Image :=
  match execute? files viewer path with
  | .error failure => .error failure
  | .ok node =>
    if overflows environment words then .error (.os .argumentsTooLong)
    else imageOf files viewer scriptLimit path node words

/-! ## Names -/

/-- The directories of a search path. An entry that is too long for a path has an
empty one behind it instead, unless it is the last. -/
def searchDirectories (path : String) : List String :=
  let entries := path.splitOn ":"
  let isFit (entry : String) : Bool := entry.utf8ByteSize < pathLimit
  (entries.dropLast.map fun entry => if isFit entry then entry else "") ++ (entries.getLast?.filter isFit).toList

def standardPath : String := "/bin:/usr/bin"

/-- The path of a name in a directory of the search path; an empty directory is
the current one. -/
def candidate (directory name : String) : String :=
  if directory.isEmpty then name else directory ++ "/" ++ name

def standardShell : String := "/bin/sh"

def loadFor (files : FileSystem) (call : Call) (path : String) : Except Failure Image :=
  match load files call.viewer call.environment path (call.name :: call.arguments) with
  | .error failure =>
    if call.scripted && failure = .os .notExecutable then
      load files call.viewer call.environment standardShell (standardShell :: path :: call.arguments)
    else .error failure
  | found => found

/-- Whether a failure to start a file does not end the search. -/
def isPassedOver (failure : Failure) : Bool :=
  failure = .os .noEntry || failure = .os .notDirectory || failure = .os .accessDenied

/-- Tries directories in turn. A missing file is passed over, a forbidden one too
but it is remembered, and any other failure ends the search. -/
def searchIn (files : FileSystem) (call : Call) (denied : Bool) (last : Failure) :
    List String → Except Failure Image
  | [] => .error (if denied then .os .accessDenied else last)
  | directory :: rest =>
    match loadFor files call (candidate directory call.name) with
    | .ok image => .ok image
    | .error failure =>
      if isPassedOver failure then
        searchIn files call (denied || failure = .os .accessDenied) failure rest
      else .error failure

def locate (files : FileSystem) (call : Call) : Except Failure Image :=
  match call.path with
  | some path => loadFor files call path
  | none =>
    if call.name.isEmpty then .error (.os .noEntry)
    else if call.name.toList.contains '/' then loadFor files call call.name
    else
      searchIn files call false (.os .noEntry)
        (searchDirectories ((call.environment.get? "PATH").getD standardPath))

/-- The path of the file that a name means to a script, whose search path may be
unset. What is there but cannot be executed is told from what is missing. -/
def find (path : Option String) (viewer : Viewer) (name : String) (files : FileSystem) : Except Errno String :=
  go .noEntry ((path.map (·.splitOn ":")).getD [])
where
  /-- Looks in directories in turn, after a failure to find the name before. -/
  go (failure : Errno) : List String → Except Errno String
    | [] => .error failure
    | directory :: rest =>
      let path := candidate directory name
      match files.stat viewer path with
      | .error (.os e) => go (if e = .noEntry || e = .notDirectory then failure else e) rest
      | .error _ => go failure rest
      | .ok (_, node) =>
        if node.isFile && (files.attributesOf node).allows viewer.user .execute then .ok path
        else go .accessDenied rest

end PipeShell.Host
