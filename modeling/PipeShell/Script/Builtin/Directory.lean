import PipeShell.Script.Builtin.Basic

/-! # What a script's process carries along

The working directory, the permissions that new files lack, and limits. A script
remembers its directory as the path by which it was entered, so that `..` leads
back along that path and not to wherever a link led. -/

set_option autoImplicit false

namespace PipeShell.Script.Builtin

open PipeShell.System

def followPath (directory path : String) : String :=
  let start := if Path.isAbsolute path then [] else (Path.pieces directory).filter (· != "")
  let names := (Path.pieces path).foldl (fun (names : List String) name =>
    if name == ".." then names.dropLast
    else if name == "." || name == "" then names
    else names ++ [name]) start
  let double := fun (path : String) =>
    path.toList.take 2 == ['/', '/'] && (path.toList.drop 2).head? != some '/'
  (if double (if Path.isAbsolute path then path else directory) then "//" else "/") ++
    String.intercalate "/" names

def wantsPhysical (given : List (Char × String)) : Bool := (given.getLast?.map (·.1)) == some 'P'

def changeDirectory : Builtin := fun _ outcomes words state =>
  withOptions ['L', 'P'] [] outcomes words state fun given words =>
    let physical := wantsPhysical given
    let back := words.head? == some "-"
    let target :=
      match words with
      | [] => (state.lookup? "HOME").getD ""
      | word :: _ => if word == "-" then (state.lookup? "OLDPWD").getD "" else word
    let first := (Path.pieces target).headD ""
    let fixed := Path.isAbsolute target || first == "." || first == ".."
    let target' := if target.isEmpty then "." else target
    .look fun files =>
      let bases := if fixed then [] else ((state.lookup? "CDPATH").map (·.splitOn ":")).getD []
      let found := bases.find? fun base =>
        files.isDirectory state.viewer (if base.isEmpty then target' else base ++ "/" ++ target')
      let path :=
        match found with
        | some base => if base.isEmpty then target' else base ++ "/" ++ target'
        | none => target'
      let announced := back || (found.map fun base => !base.isEmpty).getD false
      let logical := followPath state.directory path
      let enter (location : Location) (entered : String) : Program :=
        let assigned (name value : String) (state : State) (next : Next) : Program :=
          assign outcomes name value state fun state =>
            match state.binding? name with
            | some held => next (state.put name { held with exported := true })
            | none => next state
        assigned "OLDPWD" state.directory { state with viewer := { state.viewer with directory := location } } fun state =>
          assigned "PWD" entered { state with directory := entered } fun state =>
            if announced then printText outcomes (entered ++ "\n") 0 state else done outcomes 0 state
      match files.stat state.viewer (if physical then path else logical) with
      | .ok (location, .directory attributes) =>
        if attributes.admits state.viewer.user then
          enter location (if physical then location.path else logical)
        else refuse outcomes ("can't cd to " ++ target) state
      | _ => refuse outcomes ("can't cd to " ++ target) state

def printDirectory : Builtin := fun _ outcomes words state =>
  withOptions ['L', 'P'] [] outcomes words state fun given _ =>
    printText outcomes ((if wantsPhysical given then state.viewer.directory.path else state.directory) ++ "\n") 0 state

def shownMask (mask : Nat) : String :=
  let letters (bits : Nat) : String :=
    (if bits &&& 4 = 0 then "r" else "") ++ (if bits &&& 2 = 0 then "w" else "") ++ (if bits &&& 1 = 0 then "x" else "")
  "u=" ++ letters (mask / 64 % 8) ++ ",g=" ++ letters (mask / 8 % 8) ++ ",o=" ++ letters (mask % 8)

/-- The permission bits that letters such as `rw` mean within one class, where `mode` is what is
allowed before. -/
def permissionBits (mode : Nat) (letters : List Char) : Nat :=
  letters.foldl (fun bits letter =>
    bits ||| (match letter with
      | 'r' => 4
      | 'w' => 2
      | 'x' => 1
      | 'u' => mode / 64
      | 'g' => mode / 8
      | 'o' => mode
      | 'X' => if mode &&& 73 = 0 then 0 else 1
      | _ => 0) % 8) 0

/-- Applies clauses such as `go-w,u+x` to permissions, as far as they can be read: the
permissions, and what is left. A class stays chosen until a comma. -/
def applyClauses (mode : Nat) : Nat → Nat → Nat → List Char → Nat × List Char
  | 0, _, changed, text => (changed, text)
  | bound + 1, chosen, changed, text =>
    let who := text.takeWhile ['u', 'g', 'o', 'a'].contains
    let part (letter : Char) (bit : Nat) : Nat := if who.contains 'a' || who.contains letter then bit else 0
    let chosen := chosen ||| part 'u' 64 ||| part 'g' 8 ||| part 'o' 1
    let chosen := if chosen = 0 then 73 else chosen
    match text.drop who.length with
    | sign :: rest =>
      if !(['=', '+', '-'].contains sign) then (changed, sign :: rest)
      else
        let letters := rest.takeWhile ['r', 'w', 'x', 'u', 'g', 'o', 'X', 's'].contains
        let bits := permissionBits mode letters * chosen
        let changed :=
          match sign with
          | '+' => changed ||| bits
          | '-' => changed - (changed &&& bits)
          | _ => (changed - (changed &&& 7 * chosen)) ||| bits
        match rest.drop letters.length with
        | ',' :: rest => if rest.isEmpty then (changed, []) else applyClauses mode bound 0 changed rest
        | [] => (changed, [])
        | next :: rest =>
          if ['=', '+', '-'].contains next then applyClauses mode bound chosen changed (next :: rest)
          else (changed, next :: rest)
    | [] => (changed, [])

def umask : Builtin := fun _ outcomes words state =>
  withOptions ['S'] [] outcomes words state fun given words =>
    match words with
    | [] =>
      let digits := Nat.toDigits 8 state.viewer.mask
      printText outcomes ((if given.isEmpty then
        String.ofList (List.replicate (4 - digits.length) '0' ++ digits) else shownMask state.viewer.mask) ++ "\n") 0 state
    | word :: _ =>
      let set (mask : Nat) : Program :=
        done outcomes 0 { state with viewer := { state.viewer with mask := mask % 512 } }
      if (word.toList.head?.map Char.isDigit).getD false then
        if word.toList.all fun c => '0' ≤ c && c ≤ '7' then
          set (word.toList.foldl (fun value c => value * 8 + (c.toNat - '0'.toNat)) 0)
        else refuse outcomes ("Illegal number: " ++ word) state
      else
        let mode := 511 - state.viewer.mask % 512
        match applyClauses mode (word.length + 1) 0 mode word.toList with
        | (mode, []) => set (511 - mode % 512)
        | _ => refuse outcomes ("Illegal mode: " ++ word) state

def limit : Builtin := fun _ outcomes words state =>
  withOptions (['H', 'S', 'a'] ++ Limit.standard.map Limit.letter) [] outcomes words state fun given words =>
    let letters := given.map (·.1)
    let sort := (letters.filter fun letter => letter = 'H' || letter = 'S').getLast?
    let value (limit : Limit) : String := Limit.shown (if sort = some 'H' then limit.hard else limit.soft) ++ "\n"
    let letter := ((letters.filter fun letter => !(['H', 'S', 'a'].contains letter)).getLast?).getD 'f'
    let row (limit : Limit) : String :=
      limit.name ++ String.ofList (List.replicate (20 - limit.name.length) ' ') ++ " " ++ value limit
    let chosen := state.limits.find? (·.letter == letter)
    match words with
    | [] =>
      if letters.contains 'a' then printText outcomes (String.join (state.limits.map row)) 0 state
      else printText outcomes ((chosen.map value).getD "") 0 state
    | word :: rest =>
      if letters.contains 'a' || !rest.isEmpty then refuse outcomes "too many arguments" state
      else
        match Limit.value? word, chosen with
        | some wanted, some limit =>
          match limit.change (sort != some 'H') (sort != some 'S') wanted with
          | .ok changed =>
            done outcomes 0
              { state with limits := state.limits.map fun limit => if limit.letter = letter then changed else limit }
          | .error e => refuse outcomes ("error setting limit: " ++ e.text) state
        | _, _ => refuse outcomes "bad number" state

end PipeShell.Script.Builtin
