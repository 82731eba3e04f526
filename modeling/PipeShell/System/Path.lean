/-! # Paths

Paths are texts. This module holds what can be said of them without looking at
any file: their segments, joining, the parent, the last name, and when two of
them are the same as texts up to repeated and trailing slashes and `.`. -/

set_option autoImplicit false

namespace PipeShell.System.Path

/-- The pieces between slashes; an absolute path begins with an empty piece, a
path that ends with a slash ends with one. -/
def pieces (path : String) : List String :=
  (path.toList.splitOn '/').map String.ofList

def isAbsolute (path : String) : Bool := path.toList.head? == some '/'

def endsWithSlash (path : String) : Bool := path.toList.getLast? == some '/'

/-- The path `path` seen from `base`. An absolute path stands for itself; an
empty one names `base` with a slash behind it. -/
def join (base path : String) : String :=
  if isAbsolute path then path
  else if base.isEmpty || endsWithSlash base then base ++ path
  else base ++ "/" ++ path

def isIdle (piece : String) : Bool := piece == "" || piece == "."

/-- The components of a path: the root if it is absolute, a `.` only where it
begins a relative path, and every other piece that is not empty. -/
def components (path : String) : List String :=
  match pieces path with
  | [] => []
  | first :: rest =>
    (if first == "" then (if isAbsolute path then ["/"] else []) else [first]) ++ rest.filter (!isIdle ·)

/-- Two paths are the same text up to slashes and `.` pieces that change
nothing. -/
def same (a b : String) : Bool := components a == components b

/-- The pieces after the first one without the idle ones at the end. -/
def trimPieces : List String → List String
  | [] => []
  | first :: rest => first :: (rest.reverse.dropWhile isIdle).reverse

/-- The path written from its pieces; a single empty piece is the root. -/
def ofPieces : List String → String
  | [""] => "/"
  | pieces => String.intercalate "/" pieces

/-- The path without its last component; nothing for the root and for the empty
path. -/
def parent? (path : String) : Option String :=
  let trimmed := trimPieces (pieces path)
  match trimmed with
  | [] => none
  | [only] => if only == "" then none else some ""
  | _ => some (ofPieces (trimPieces trimmed.dropLast))

/-- The last name of a path, trailing slashes aside; a path of nothing but
slashes is its own name. -/
def basename (path : String) : String :=
  let trimmed := (path.toList.reverse.dropWhile (· == '/')).reverse
  if trimmed.isEmpty then path
  else String.ofList (trimmed.reverse.takeWhile (· != '/')).reverse

/-- Replaces a leading `~` by the home directory when the path is `~` or begins
with `~/`. Without a home directory, and for every other path, nothing
changes. -/
def expandTilde (home : Option String) (path : String) : String :=
  match home, path.toList with
  | some home, '~' :: rest =>
    if rest.isEmpty || rest.head? == some '/' then home ++ String.ofList rest else path
  | _, _ => path

end PipeShell.System.Path
