import PipeShell.Utility.Change

/-! # Removing files and directories

What a path names is removed with all that is below it, or only if nothing is below
it. Whoever is asked may refuse; a directory that keeps something is kept too, and so
are those above it. -/

set_option autoImplicit false

namespace PipeShell.Utility

open PipeShell.System

structure RemovalStyle where
  recursive : Bool := false
  force : Bool := false
  empty : Bool := false
  /-- Every removal has to be agreed to. -/
  asks : Bool := false
  sparesRoot : Bool := true
  verbose : Bool := false
  deriving DecidableEq, Repr

def takeAway (invocation : Invocation) (style : RemovalStyle) (isDirectory isListed : Bool) (path : String) : Task Bool := do
  let outcome ← Task.change fun files =>
    if isDirectory then files.removeDirectory invocation.viewer path else files.unlink invocation.viewer path
  match outcome with
  | .ok () =>
    Task.sayIf style.verbose invocation ((if isDirectory then "removed directory " else "removed ") ++ shownPath path)
    return false
  | .error failure =>
    if style.force && isMissing failure then return false
    else do
      let failure : Failure := if failure = .os .notEmpty && !isListed then .os .accessDenied else failure
      Task.complain invocation ("cannot remove " ++ shownPath path ++ ": " ++ reason failure)
      return true

def isSpared (invocation : Invocation) (style : RemovalStyle) (location : Location) (path : String) : Task Bool := do
  let last := withoutSlashes (lastComponent path)
  if last = "." || last = ".." then do
    Task.complain invocation ("refusing to remove '.' or '..' directory: skipping " ++ shownPath path)
    return true
  else if style.sparesRoot && location.isEmpty then do
    Task.complain invocation ("it is dangerous to operate recursively on " ++ shownPath path ++
      (if path = "/" then "" else " (same as '/')"))
    Task.complain invocation "use --no-preserve-root to override this failsafe"
    return true
  else return false

/-- Removes what a path names, and all that is below it, at most `bound` levels deep.
The answer tells whether the directories above are to be kept for its sake. -/
def removeBelow (invocation : Invocation) (style : RemovalStyle) : Nat → Bool → String → Task Bool
  | 0, _, _ => pure true
  | bound + 1, isOperand, path => do
    let files ← Task.look
    match files.resolve invocation.viewer .keep path with
    | .ok ⟨location, some node⟩ =>
      let isListed := (files.attributesOf node).allows invocation.viewer.user .read
      let isEmpty := isListed && (files.children location).isEmpty
      if !node.isDirectory then do
        let agreed ← if style.asks then Task.ask invocation ("remove " ++ kindName files node ++ " " ++ shownPath path)
          else pure true
        if agreed then takeAway invocation style false true path else return false
      else if !style.recursive && !(style.empty && isEmpty) then do
        let failure : Errno := if style.empty then .notEmpty else .isDirectory
        Task.complain invocation ("cannot remove " ++ shownPath path ++ ": " ++ failure.text)
        return true
      else do
        let spared ← if isOperand then isSpared invocation style location path else pure false
        let question := (if isEmpty then "remove directory " else "descend into directory ") ++ shownPath path
        let agreed ← if style.asks && !spared then Task.ask invocation question else pure !spared
        if !agreed then return true
        else if isEmpty then takeAway invocation style true true path
        else do
          let kept ← (if isListed then namesIn files location else []).foldlM (fun kept (name, _) => do
            let keptNow ← removeBelow invocation style bound false (pathBelow path name)
            return kept || keptNow) false
          if kept then return true
          else do
            let agreed ← if style.asks then Task.ask invocation ("remove directory " ++ shownPath path) else pure true
            if agreed then takeAway invocation style true isListed path else return false
    | .error failure =>
      if style.asks then do
        Task.complain invocation ("cannot remove " ++ shownPath path ++ ": " ++ reason failure)
        return false
      else takeAway invocation style false true path
    | .ok _ => takeAway invocation style false true path

def askingChoices : Choices Char :=
  [("never", 'n'), ("no", 'n'), ("none", 'n'), ("once", 'I'), ("always", 'i'), ("yes", 'i')]

def removalTable : OptionTable := {
  flags := ['r', 'R', 'f', 'd', 'i', 'I', 'v'], optional := ['=', '%']
  long := [("recursive", 'r'), ("force", 'f'), ("dir", 'd'), ("verbose", 'v'), ("interactive", '='), ("one-file-system", '1'),
    ("preserve-root", '%'), ("no-preserve-root", '/'), ("-presume-input-tty", '_')]
  check := fun letter value =>
    if letter = '=' && !value.isEmpty then askingChoices.refusal? "--interactive" value
    else if letter = '%' && !value.isEmpty && value != "all" then
      some { message := "unrecognized --preserve-root argument: " ++ shownPath value, hinted := false }
    else none }

/-- What the options say about removals, and whether a single question is asked about
many of them. -/
def RemovalStyle.ofOptions (options : Options) : RemovalStyle × Bool :=
  let wish := options.given.filterMap fun (letter, value) =>
    if ['f', 'i', 'I'].contains letter then some letter
    else if letter = '=' then some (if value.isEmpty then 'i' else ((askingChoices.choose value).toOption).getD 'i')
    else none
  ({ recursive := options.has 'r' || options.has 'R'
     force := (wish.filter (· != 'n')).getLast? == some 'f', empty := options.has 'd'
     asks := wish.getLast? == some 'i', sparesRoot := options.lastOf? ['/', '%'] != some '/'
     verbose := options.has 'v' },
    wish.getLast? == some 'I')

/-- How a file is removed that looks like an option, if there is one among the
words. -/
def hyphenHint (invocation : Invocation) (files : FileSystem) : List String :=
  let isFile (word : String) : Bool :=
    word.toList.head? == some '-' && word.length > 1 &&
      (match files.resolve invocation.viewer .keep word with
        | .ok ⟨_, some _⟩ => true
        | _ => false)
  match invocation.arguments.find? isFile with
  | some word =>
    ["Try '" ++ invocation.name ++ " ./" ++ unquotedOr [] word ++ "' to remove the file " ++ shownPath word ++ "."]
  | none => []

def remove : Utility := fun invocation =>
  .look fun files =>
    let details := hyphenHint invocation files
    withReading removalTable details invocation 1 (readArguments removalTable {} invocation.arguments) fun options =>
      let (style, asksOnce) := RemovalStyle.ofOptions options
      let count := options.operands.length
      if options.has '/' && !invocation.arguments.contains "--no-preserve-root" then
        fail invocation "you may not abbreviate the --no-preserve-root option"
      else if count = 0 && !style.force then refuse invocation "missing operand"
      else Task.run do
        let question := "remove " ++ toString count ++ (if count = 1 then " argument" else " arguments") ++
          (if style.recursive then " recursively" else "")
        let agreed ← if asksOnce && (style.recursive || count > 3) then Task.ask invocation question else pure true
        if agreed then
          options.operands.forM fun path => do
            let files ← Task.look
            let _ ← removeBelow invocation style (files.entries.length + 1) true (withOneSlash path)
        else pure ()

def unlink : Utility := fun invocation =>
  withOptions {} invocation 1 fun options =>
    match options.operands with
    | [] => refuse invocation "missing operand"
    | [path] => Task.run do
      match ← Task.change fun files => files.unlink invocation.viewer path with
      | .ok () => pure ()
      | .error failure => Task.complain invocation ("cannot unlink " ++ shownPath path ++ ": " ++ reason failure)
    | _ :: extra :: _ => refuse invocation ("extra operand " ++ shown extra)

structure ClearanceStyle where
  /-- Directories that are not empty do not matter. -/
  lenient : Bool := false
  verbose : Bool := false
  deriving DecidableEq, Repr

/-- Removes an empty directory; `describe` words a failure. The answer tells whether it
is gone. -/
def clear (invocation : Invocation) (style : ClearanceStyle) (describe : FileSystem → Failure → String) (path : String) :
    Task Bool := do
  Task.sayIf style.verbose invocation (invocation.name ++ ": removing directory, " ++ shownPath path)
  match ← Task.change fun files => files.removeDirectory invocation.viewer path with
  | .ok () => return true
  | .error failure => do
    let files ← Task.look
    let holdsSomething : Bool :=
      match files.stat invocation.viewer path with
      | .ok (location, node) =>
        node.isDirectory && (files.attributesOf node).allows invocation.viewer.user .read && !(files.children location).isEmpty
      | .error _ => false
    if style.lenient && (failure = .os .notEmpty || (failure = .os .accessDenied && holdsSomething)) then return false
    else do
      Task.complain invocation (describe files failure)
      return false

/-- The paths of the directories above a path that has no slash at its end, the longest
first. -/
def ancestorPaths : Nat → String → List String
  | 0, _ => []
  | bound + 1, path =>
    let front := (path.toList.reverse.dropWhile (· != '/')).reverse
    if front.isEmpty then []
    else
      let above := withoutSlashes (String.ofList front)
      above :: (if above = "/" then [] else ancestorPaths bound above)

/-- Removes empty directories, the first of them and then the others as long as this
works. -/
def clearAll (invocation : Invocation) (style : ClearanceStyle) : List String → Task Unit
  | [] => pure ()
  | path :: rest => do
    let describe := fun (_ : FileSystem) (failure : Failure) =>
      "failed to remove " ++ (if failure = .os .notDirectory then "" else "directory ") ++ shownPath path ++ ": " ++ reason failure
    if ← clear invocation style describe path then clearAll invocation style rest

def removeDirectories : Utility := fun invocation =>
  let table : OptionTable := {
    flags := ['p', 'v']
    long := [("parents", 'p'), ("path", 'p'), ("verbose", 'v'), ("ignore-fail-on-non-empty", 'i')] }
  withOptions table invocation 1 fun options =>
    let style : ClearanceStyle := { lenient := options.has 'i', verbose := options.has 'v' }
    if options.operands.isEmpty then refuse invocation "missing operand"
    else Task.run do
      options.operands.forM fun path => do
        let describe := fun (files : FileSystem) (failure : Failure) =>
          let isLinkToDirectory : Bool :=
            failure = .os .notDirectory && Path.endsWithSlash path &&
              (match files.stat invocation.viewer path with
                | .ok (_, node) => node.isDirectory
                | .error failure => failure != .os .notDirectory) &&
              (match files.place invocation.viewer path with
                | .ok place => place.node.any (fun node => (node matches .link _))
                | .error _ => false)
          "failed to remove " ++ shownPath path ++ ": " ++
            (if isLinkToDirectory then "Symbolic link not followed" else reason failure)
        let gone ← clear invocation style describe path
        if gone && options.has 'p' then clearAll invocation style (ancestorPaths path.length (withoutSlashes path))

end PipeShell.Utility
