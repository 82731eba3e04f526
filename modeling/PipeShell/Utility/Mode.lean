import PipeShell.System.OpenFile

/-! # Modes

The permission bits of files as words: octal, or clauses such as `u+x` that change
the bits there are. -/

set_option autoImplicit false

namespace PipeShell.Utility

/-- What a clause of a mode does to the bits it speaks of. -/
inductive ModeOperator where
  | set
  | add
  | remove
  deriving DecidableEq, Repr

inductive ModeBits where
  | bits (value : Nat)
  /-- Execution counts only for directories and where somebody may execute. -/
  | executable (value : Nat)
  /-- The bits that one class of users has. -/
  | classOf (value : Nat)
  deriving DecidableEq, Repr

structure ModeClause where
  /-- The bits of the users it is about; none if it does not say. -/
  who : Nat
  operator : ModeOperator
  what : ModeBits
  /-- Whether it is the only clause and a short number, so that a directory keeps
  its special bits. -/
  short : Bool := false
  deriving DecidableEq, Repr

namespace ModeClause

def allBits : Nat := 0o7777

def without (mode bits : Nat) : Nat := mode - (mode &&& bits)

def apply (clause : ModeClause) (isDirectory : Bool) (mask mode : Nat) : Nat :=
  let spread (value : Nat) : Nat :=
    (if value &&& 0o444 != 0 then 0o444 else 0) ||| (if value &&& 0o222 != 0 then 0o222 else 0) |||
      (if value &&& 0o111 != 0 then 0o111 else 0)
  let value :=
    match clause.what with
    | .bits value => value
    | .executable value => if isDirectory || mode &&& 0o111 != 0 then value ||| 0o111 else value
    | .classOf value => spread (value &&& mode)
  let special : Nat := if isDirectory && (clause.short || clause.who = 0) then without 0o6000 value else 0
  let value := without (value &&& (if clause.who = 0 then without allBits mask else clause.who)) special
  match clause.operator with
  | .add => mode ||| value
  | .remove => without mode value
  | .set =>
    let kept := (if clause.who = 0 then 0 else without allBits clause.who) ||| special
    (mode &&& kept) ||| value

end ModeClause

def classBits? (letter : Char) : Option Nat :=
  match letter with
  | 'u' => some 0o4700
  | 'g' => some 0o2070
  | 'o' => some 0o1007
  | 'a' => some 0o7777
  | _ => none

def permissionBits? (letter : Char) : Option Nat :=
  match letter with
  | 'r' => some 0o444
  | 'w' => some 0o222
  | 'x' => some 0o111
  | 's' => some 0o6000
  | 't' => some 0o1000
  | _ => none

def octalMode? (digits : List Char) : Option Nat :=
  if digits.isEmpty || !digits.all (fun c => '0' ≤ c && c ≤ '7') then none
  else
    let value := digits.foldl (fun value c => value * 8 + (c.toNat - '0'.toNat)) 0
    if value ≤ ModeClause.allBits then some value else none

def readPermissions (letters : List Char) : Option ModeBits :=
  match letters with
  | ['u'] => some (.classOf 0o700)
  | ['g'] => some (.classOf 0o070)
  | ['o'] => some (.classOf 0o007)
  | letters =>
    if letters.all fun c => c = 'X' || (permissionBits? c).isSome then
      let value := letters.foldl (fun value c => value ||| (permissionBits? c).getD 0) 0
      some (if letters.contains 'X' then .executable value else .bits value)
    else none

def modeOperator? (c : Char) : Option ModeOperator :=
  match c with
  | '=' => some .set
  | '+' => some .add
  | '-' => some .remove
  | _ => none

def readActions (who : Nat) : Nat → List Char → Option (List ModeClause)
  | 0, _ => none
  | _ + 1, [] => some []
  | bound + 1, c :: rest => do
    let operator ← modeOperator? c
    let letters := rest.takeWhile fun c => (modeOperator? c).isNone
    let what ←
      match octalMode? letters with
      | some value => some (.bits value)
      | none => readPermissions letters
    let clauses ← readActions who bound (rest.drop letters.length)
    return ⟨if (octalMode? letters).isSome then ModeClause.allBits else who, operator, what, false⟩ :: clauses

def readMode (word : String) : Option (List ModeClause) :=
  let letters := word.toList
  match octalMode? letters with
  | some value => some [⟨ModeClause.allBits, .set, .bits value, letters.length < 5⟩]
  | none => do
    let clauses ← (letters.splitOn ',').mapM fun part =>
      let who := part.takeWhile fun c => (classBits? c).isSome
      let bits := who.foldl (fun bits c => bits ||| (classBits? c).getD 0) 0
      let actions := part.drop who.length
      if actions.isEmpty then none else readActions bits (actions.length + 1) actions
    return clauses.flatten

def changeModeBits (clauses : List ModeClause) (isDirectory : Bool) (mask mode : Nat) : Nat :=
  clauses.foldl (fun mode clause => clause.apply isDirectory mask mode) mode

def modeText (mode : Nat) : String :=
  let has (bit : Nat) : Bool := mode &&& bit != 0
  let last (execute special : Bool) (letter : Char) : Char :=
    if special then (if execute then letter.toLower else letter.toUpper) else if execute then 'x' else '-'
  String.ofList [
    if has 0o400 then 'r' else '-', if has 0o200 then 'w' else '-', last (has 0o100) (has 0o4000) 's',
    if has 0o040 then 'r' else '-', if has 0o020 then 'w' else '-', last (has 0o010) (has 0o2000) 's',
    if has 0o004 then 'r' else '-', if has 0o002 then 'w' else '-', last (has 0o001) (has 0o1000) 't']

def octalText (width mode : Nat) : String :=
  let digits := Nat.toDigits 8 mode
  String.ofList (List.replicate (width - digits.length) '0' ++ digits)

end PipeShell.Utility
