import PipeShell.System.OpenFile
import PipeShell.Text.Ranges
import PipeShell.Text.Raw

/-! # Patterns

Patterns with `*`, `?` and bracketed sets, for the choice between cases, for
cutting the ends off a value, and for the names of files. They know bytes, not
characters: a character of several bytes is that many items. A quoted byte stands
only for itself. -/

set_option autoImplicit false

namespace PipeShell.Script

open PipeShell.System

abbrev Marked := UInt8 × Bool

def markAll (quoted : Bool) (text : String) : List Marked := (rawBytes text).map (·, quoted)

def plainText (marked : List Marked) : String := rawText (marked.map (·.1))

def byteOf (c : Char) : UInt8 := c.toNat.toUInt8

def isBare (c : Char) (marked : Marked) : Bool := marked.1 == byteOf c && !marked.2

inductive SetMember where
  | range (low high : UInt8)
  | named (name : String)
  deriving DecidableEq, Repr

/-- Whether a byte is what a member of a set stands for. Bytes outside of ASCII come in
front of those inside. -/
def SetMember.holds (b : UInt8) : SetMember → Bool
  | .range low high => low.toInt8 ≤ b.toInt8 && b.toInt8 ≤ high.toInt8
  | .named name => Text.inAsciiClass name b.toNat

inductive PatternItem where
  | any
  | one
  | byte (b : UInt8)
  | set (negated : Bool) (members : List SetMember)
  deriving DecidableEq, Repr

/-- The name of a class such as `[:alpha:]` behind its opening bracket, with what
follows. -/
def readClass (text : List Marked) : Option (String × List Marked) :=
  match text with
  | colon :: rest =>
    let name := (rest.map (·.1)).takeWhile fun b => Text.inAsciiClass "alpha" b.toNat
    match rest.drop name.length with
    | second :: bracket :: rest =>
      if isBare ':' colon && isBare ':' second && isBare ']' bracket then some (rawText name, rest) else none
    | _ => none
  | [] => none

/-- The members of a set behind its opening bracket and what follows the closing
one; nothing without a closing one. The first member may be a bracket. -/
def readMembers : Nat → Bool → List SetMember → List Marked → Option (List SetMember × List Marked)
  | 0, _, _, _ => none
  | _ + 1, _, _, [] => none
  | bound + 1, first, done, marked :: rest =>
    if isBare ']' marked && !first then some (done.reverse, rest)
    else
      match (if isBare '[' marked then readClass rest else none) with
      | some (name, rest) => readMembers bound false (.named name :: done) rest
      | none =>
        let single := SetMember.range marked.1 marked.1
        match rest with
        | dash :: high :: behind =>
          if isBare '-' dash && !isBare ']' high then
            readMembers bound false (.range marked.1 high.1 :: done) behind
          else readMembers bound false (single :: done) rest
        | rest => readMembers bound false (single :: done) rest

/-- Marked bytes in which a backslash that came out of a value has quoted what is behind
it, if there is something. -/
def settle : List Marked → List Marked
  | [] => []
  | (92, false) :: marked :: rest => (marked.1, true) :: settle rest
  | (92, false) :: [] => [(92, true)]
  | marked :: rest => marked :: settle rest

/-- The items of a pattern, at most `bound` of them. Some characters in front of the
members of a set negate it. -/
def readItems (negators : List Char) : Nat → List Marked → List PatternItem
  | 0, _ => []
  | _ + 1, [] => []
  | bound + 1, marked :: rest =>
    if isBare '*' marked then .any :: readItems negators bound rest
    else if isBare '?' marked then .one :: readItems negators bound rest
    else if isBare '[' marked then
      let negated := rest.head?.any fun first => negators.any (isBare · first)
      let inside := if negated then rest.drop 1 else rest
      match readMembers (inside.length + 1) true [] inside with
      | some (members, rest) => .set negated members :: readItems negators bound rest
      | none => .byte marked.1 :: readItems negators bound rest
    else .byte marked.1 :: readItems negators bound rest

def patternItems (marked : List Marked) (negators : List Char := ['!']) : List PatternItem :=
  readItems negators (marked.length + 1) (settle marked)

def endings : Bytes → List Bytes
  | [] => [[]]
  | b :: rest => (b :: rest) :: endings rest

def covers : List PatternItem → Bytes → Bool
  | [], text => text.isEmpty
  | .any :: items, text =>
    match items with
    | [] => true
    | items => (endings text).any fun ending => covers items ending
  | .one :: items, text =>
    match text with
    | _ :: rest => covers items rest
    | [] => false
  | .byte b :: items, text =>
    match text with
    | d :: rest => b = d && covers items rest
    | [] => false
  | .set negated members :: items, text =>
    match text with
    | d :: rest => (members.any (SetMember.holds d)) != negated && covers items rest
    | [] => false

def isMagic (marked : List Marked) : Bool :=
  (settle marked).any fun marked => isBare '*' marked || isBare '?' marked || isBare '[' marked

def hasEntry (files : FileSystem) (viewer : Viewer) (path : String) : Bool :=
  match files.resolve viewer .keep path with
  | .ok found => found.node.isSome
  | .error _ => false

def namesIn (files : FileSystem) (viewer : Viewer) (path : String) : List String :=
  match files.stat viewer path with
  | .ok (location, .directory attributes) =>
    if attributes.allows viewer.user .read then "." :: ".." :: (files.children location).map (·.1) else []
  | _ => []

def expandComponent (files : FileSystem) (viewer : Viewer) (bases : List String) (component : List Marked)
    (last : Bool) : List String :=
  let close (path : String) : String := if last then path else path ++ "/"
  if !isMagic component then
    (bases.map fun base => base ++ plainText component).filterMap fun path =>
      if !last || path.isEmpty || hasEntry files viewer path then some (close path) else none
  else
    let items := patternItems component
    let hidden := (component.head?.map (·.1)) == some (byteOf '.')
    bases.flatMap fun base =>
      let names := namesIn files viewer (if base.isEmpty then "." else base)
      let chosen := names.filter fun name =>
        covers items (rawBytes name) && (hidden || name.toList.head? != some '.')
      let chosen := if last then chosen else chosen.filter fun name => files.isDirectory viewer (base ++ name)
      chosen.map fun name => close (base ++ name)

/-- The paths that a pattern stands for, in order; the pattern itself if there
are none. -/
def expandPattern (files : FileSystem) (viewer : Viewer) (marked : List Marked) : List String :=
  let slash := byteOf '/'
  let components := ((settle marked).map fun (b, quoted) => (b, quoted && b != slash)).splitOn (slash, false)
  let lastIndex := components.length - 1
  let found := components.zipIdx.foldl
    (fun bases (component, index) => expandComponent files viewer bases component (index == lastIndex)) [""]
  let sorted := found.mergeSort fun a b => rawBytes a ≤ rawBytes b
  if sorted.isEmpty then [plainText marked] else sorted

end PipeShell.Script
