import PipeShell.Text.Grapheme.Class

/-! # Clusters of characters

A text falls into the clusters that a reader takes for one character each. Two
neighbours belong to one cluster or not by their classes alone, with three
exceptions that look further back: flags pair up from the left, a picture is tied
by a joiner only to a picture, and consonants stack only through a linker. What
those three need to know of the characters in front is the context; it is carried
from one character to the next. -/

set_option autoImplicit false

namespace PipeShell.Text

/-- What is known of the characters in front of a place in a text. -/
structure ClusterContext where
  /-- The class of the character in front. -/
  last : BreakClass
  /-- An odd number of regional letters stands in front. -/
  halfFlag : Bool := false
  /-- A picture stands in front, with nothing after it but what attaches itself. -/
  picture : Bool := false
  /-- A joiner in front ends such a picture. -/
  tied : Bool := false
  /-- A consonant stands in front, with nothing after it but the parts of a stack. -/
  consonant : Bool := false
  linked : Bool := false
  deriving DecidableEq, Repr

namespace ClusterContext

def start : ClusterContext := { last := .control }

def after (context : ClusterContext) (c : Char) : ClusterContext :=
  let kind := breakClass c
  let role := conjunctClass c
  { last := kind
    halfFlag := kind = .regional && !context.halfFlag
    picture := kind = .pictograph || (kind = .extend && context.picture)
    tied := kind = .joiner && context.picture
    consonant := role = .consonant || (role matches .linker | .extend) && context.consonant
    linked := context.consonant && (role = .linker || role = .extend && context.linked) }

end ClusterContext

/-- Whether a character of the second class joins one of the first. -/
def joins : BreakClass → BreakClass → Bool
  | .carriageReturn, .lineFeed => true
  | .carriageReturn, _ | .lineFeed, _ | .control, _ => false
  | _, .carriageReturn | _, .lineFeed | _, .control => false
  | _, .extend | _, .joiner | _, .spacing => true
  | .leading, _ => true
  | .hangulLead, next => (next matches .hangulLead | .hangulVowel | .hangulOpen | .hangulClosed)
  | .hangulOpen, next | .hangulVowel, next => (next matches .hangulVowel | .hangulTrail)
  | .hangulClosed, next | .hangulTrail, next => (next matches .hangulTrail)
  | _, _ => false

/-- Whether a character belongs to the cluster in front of it. -/
def ClusterContext.takes (context : ClusterContext) (c : Char) : Bool :=
  joins context.last (breakClass c)
    || (context.halfFlag && breakClass c = .regional)
    || (context.tied && breakClass c = .pictograph)
    || (context.linked && conjunctClass c = .consonant)

/-- A text that is being divided. -/
structure Clustering where
  context : ClusterContext := .start
  /-- The clusters so far, the last one first and each of them backwards. -/
  groups : List (List Char) := []

def Clustering.put (clustering : Clustering) (c : Char) : Clustering :=
  let context := clustering.context.after c
  match clustering.groups with
  | group :: groups =>
    if clustering.context.takes c then { context, groups := (c :: group) :: groups }
    else { context, groups := [c] :: group :: groups }
  | [] => { context, groups := [[c]] }

def clusters (text : List Char) : List (List Char) :=
  ((text.foldl Clustering.put {}).groups.map List.reverse).reverse

end PipeShell.Text
