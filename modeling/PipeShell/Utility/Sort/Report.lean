import PipeShell.Utility.Sort.Order

/-! # Reports on sorting

What a report tells about the keys: doubts about how they are written, and under every
line the part of it that each key compares. -/

set_option autoImplicit false

namespace PipeShell.Utility

def shownWidth (text : Bytes) : Nat := text.countP fun b => isPrintableByte b || b = 9 || 128 ≤ b

namespace SortKey

def tightEnd (key : SortKey) (part : Bytes) : Nat :=
  if key.has 'M' then (if monthRank part = 0 then 0 else 3)
  else if key.has 'g' then
    let text := (rawText part).toList
    (Text.Real.take text).elim 0 fun (_, rest) => text.length - rest.length
  else if key.isNumeric then
    let sign := if part.head? == some 45 then 1 else 0
    let (digits, rest) := rawNumber (part.drop sign)
    if digits.isEmpty then 0
    else part.length - rest.length + if key.has 'h' && rest.head?.any (sizeRank · != 0) then 1 else 0
  else part.length

/-- The columns of a line that a key compares: how many stand in front of them, and how
many there are. -/
def shownSpan (key : SortKey) (separator : Option UInt8) (line : Bytes) : Nat × Nat :=
  let skipsLater := key.skipStart && key.isFromStart
  let (start, stop) := SortKey.span { key with skipStart := key.skipStart && !key.isFromStart } separator line
  let part := (line.take stop).drop start
  let isTight := skipsLater || key.has 'M' || key.isNumeric
  let blanks := if isTight then (part.takeWhile isBlankByte).length else 0
  let body := part.drop blanks
  let length := if isTight then key.tightEnd body else body.length
  (shownWidth (line.take (start + blanks)), shownWidth (body.take length))

end SortKey

def markRow (columns : Nat × Nat) : Bytes :=
  List.replicate columns.1 32 ++
    if columns.2 = 0 then rawBytes "^ no match for key\n" else List.replicate columns.2 95 ++ [10]

def SortOrder.reported (order : SortOrder) (onlyKeys : Bool) (line : Bytes) : Bytes :=
  let rows := order.keys.map fun key => markRow (key.shownSpan order.separator line)
  let whole := if onlyKeys && !order.keys.isEmpty then [] else [markRow (0, shownWidth line)]
  line.map (fun b => if b = 9 then 62 else b) ++ [10] ++ (rows ++ whole).flatten

namespace SortKey

def oldForms (key : SortKey) : String × String :=
  let start := if key.isFromStart then 0 else key.start.field - 1
  match key.stop with
  | none => ("+" ++ toString start, "-k " ++ toString (start + 1))
  | some place =>
    ("+" ++ toString start ++ " -" ++ toString place.field,
      "-k " ++ toString (start + 1) ++ "," ++ toString place.field)

def isVoid (key : SortKey) : Bool := !key.isFromStart && key.stop.any fun place => place.field < key.start.field

def spansFields (key : SortKey) : Bool :=
  key.isNumeric && key.stop.elim true fun place => key.start.field < place.field

def doubts (key : SortKey) (number : Nat) (isShared : Bool) (separator : Option UInt8) : List String :=
  let old :=
    if key.isOld then
      let (old, present) := key.oldForms
      ["obsolescent key " ++ shown old ++ " used; consider " ++ shown present ++ " instead"]
    else []
  let void := if key.isVoid then ["key " ++ toString number ++ " has zero width and will be ignored"] else []
  let isWithinFirst := key.stop.any fun place => place.field = 1 && place.byte != 0
  let stopByte := (key.stop.map (·.byte)).getD 0
  let skips := key.isNumeric || key.has 'M'
  let isLeading :=
    (!key.skipStart && !skips) || (!key.skipStart && key.start.byte != 1) || (!key.skipStop && stopByte != 0)
  let blanks :=
    if !key.isVoid && !isShared && separator.isNone && !isWithinFirst && isLeading then
      ["leading blanks are significant in key " ++ toString number ++ "; consider also specifying 'b'"]
    else []
  let spans :=
    if !isShared && key.spansFields then ["key " ++ toString number ++ " is numeric and spans multiple fields"] else []
  old ++ void ++ blanks ++ spans

end SortKey

def idlePart (shared : SortKey) (keys : List SortKey) : SortKey :=
  let isIdle (letter : Char) : Bool := shared.has letter && keys.all (!SortKey.has · letter)
  { shared with
    letters := shared.letters.filter isIdle
    skipStart := shared.skipStart && keys.all (!·.skipStart)
    skipStop := shared.skipStop && keys.all (!·.skipStop) }

/-- The doubts about an order. `shared` is the key that the options for all keys make;
`alone` tells that it is the only one. -/
def SortOrder.doubts (order : SortOrder) (shared : SortKey) (alone unique : Bool) : List String :=
  let each := (order.keys.zipIdx.map fun (key, index) => key.doubts (index + 1) alone order.separator).flatten
  let spanning := if alone then [] else order.keys.filter SortKey.spansFields
  let isGeneral := spanning.any (·.has 'g')
  let separators : List String × Bool :=
    if spanning.isEmpty then ([], false)
    else
      match order.separator with
      | some 46 => (["field separator '.' is treated as a decimal point in numbers"], true)
      | some 45 => (["field separator '-' is treated as a minus sign in numbers"], false)
      | some 43 => (if isGeneral then ["field separator '+' is treated as a plus sign in numbers"] else [], false)
      | _ => ([], false)
  let points :=
    if order.keys.any SortKey.isNumeric && !separators.2 then ["numbers use '.' as a decimal point in this locale"] else []
  let idle := idlePart shared order.keys
  let hasKeys := !order.keys.isEmpty
  let isReverse := idle.has 'r'
  let shownIdle := if order.stable || unique then idle else { idle with letters := idle.letters.filter (· != 'r') }
  let ignored :=
    if !idle.isPlain || (isReverse && (order.stable || unique) && hasKeys) then
      let letters := shownIdle.shownLetters
      [(if letters.length = 1 then "option '-" ++ letters ++ "' is ignored" else "options '-" ++ letters ++ "' are ignored")]
    else []
  let last :=
    if isReverse && !(order.stable || unique) && hasKeys then ["option '-r' only applies to last-resort comparison"] else []
  each ++ separators.1 ++ points ++ ignored ++ last

end PipeShell.Utility
