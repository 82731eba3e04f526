import PipeShell.Text.Ranges
import PipeShell.Utility.Count

/-! # Translating bytes

Bytes are replaced, deleted or squeezed. Which ones is written as two sets, in
which ranges, classes and repetitions may stand for many bytes. -/

set_option autoImplicit false

namespace PipeShell.Utility

open PipeShell.System

def classBytes? (name : String) : Option Bytes :=
  (Text.asciiClass? name).map fun ranges => ((List.range 256).filter (Text.inRanges · ranges)).map Nat.toUInt8

inductive SetItem where
  | byte (b : UInt8)
  | range (first last : UInt8)
  | named (name : String)
  | equals (b : UInt8)
  /-- A byte several times, or as often as is needed. -/
  | again (b : UInt8) (count : Option Nat)
  deriving DecidableEq, Repr

/-- Reads the escapes of a set: every byte with whether it was escaped, and the
warnings there are. -/
def readSetBytes : Nat → Bytes → List (UInt8 × Bool) × List String
  | 0, _ => ([], [])
  | _ + 1, [] => ([], [])
  | _ + 1, [92] => ([(92, false)], ["warning: an unescaped backslash at end of string is not portable"])
  | bound + 1, 92 :: letter :: rest =>
    let also (b : UInt8) (warning : Option String) (rest : Bytes) : List (UInt8 × Bool) × List String :=
      let (items, warnings) := readSetBytes bound rest
      ((b, true) :: items, warning.toList ++ warnings)
    let digits := ((letter :: rest).take 3).takeWhile fun b => 48 ≤ b && b ≤ 55
    let value (digits : Bytes) : Nat := digits.foldl (fun value b => value * 8 + (b.toNat - 48)) 0
    if digits.isEmpty then
      let plain : UInt8 :=
        match Char.ofNat letter.toNat with
        | 'a' => 7
        | 'b' => 8
        | 'f' => 12
        | 'n' => 10
        | 'r' => 13
        | 't' => 9
        | 'v' => 11
        | _ => letter
      also plain none rest
    else if value digits < 256 then also (value digits).toUInt8 none ((letter :: rest).drop digits.length)
    else
      let shownDigits := String.ofList (digits.map fun b => Char.ofNat b.toNat)
      also (value (digits.take 2)).toUInt8
        (some ("warning: the ambiguous octal escape \\" ++ shownDigits ++ " is being\n\tinterpreted as the 2-byte sequence \\0" ++
          String.ofList (shownDigits.toList.take 2) ++ ", " ++ String.ofList (shownDigits.toList.drop 2)))
        ((letter :: rest).drop 2)
  | bound + 1, b :: rest =>
    let (items, warnings) := readSetBytes bound rest
    ((b, false) :: items, warnings)

/-- What stands in front of an unescaped mark and a closing bracket, and what
follows. -/
def behindMark (mark : UInt8) : List (UInt8 × Bool) → List UInt8 → Option (Bytes × List (UInt8 × Bool))
  | (a, false) :: (93, false) :: rest, done =>
    if a = mark then some (done.reverse, rest) else behindMark mark ((93, false) :: rest) (a :: done)
  | (a, _) :: rest, done => behindMark mark rest (a :: done)
  | [], _ => none

/-- The count of a repetition, and what follows it; nothing without a closing
bracket. -/
def behindCount : List (UInt8 × Bool) → List UInt8 → Option (Bytes × List (UInt8 × Bool))
  | (93, false) :: rest, done => some (done.reverse, rest)
  | (a, _) :: rest, done => behindCount rest (a :: done)
  | [], _ => none

def readAgain (items : List (UInt8 × Bool)) : Option (Except String (SetItem × List (UInt8 × Bool))) :=
  match items with
  | (b, _) :: (42, false) :: rest =>
    (behindCount rest []).map fun (text, rest) =>
      let base := if text.head? == some 48 then 8 else 10
      let isCount := text.all fun b => 48 ≤ b && b.toNat < 48 + base
      if !isCount then .error ("invalid repeat count " ++ shown (rawText text) ++ " in [c*n] construct")
      else
        let count := text.foldl (fun value b => value * base + (b.toNat - 48)) 0
        .ok (.again b (if count = 0 then none else some count), rest)
  | _ => none

def printableByte (b : UInt8) : String :=
  if isPrintableByte b then String.singleton (Char.ofNat b.toNat)
  else String.ofList ('\\' :: (List.replicate (3 - (Nat.toDigits 8 b.toNat).length) '0' ++ Nat.toDigits 8 b.toNat))

def readSetItems : Nat → List (UInt8 × Bool) → Except String (List SetItem)
  | 0, _ => .ok []
  | _ + 1, [] => .ok []
  | bound + 1, (b, escaped) :: rest =>
    let also (item : SetItem) (rest : List (UInt8 × Bool)) : Except String (List SetItem) := do
      return item :: (← readSetItems bound rest)
    let plain (_ : Unit) : Except String (List SetItem) :=
      match rest with
      | (45, false) :: (last, _) :: rest =>
        if last < b then
          .error ("range-endpoints of '" ++ printableByte b ++ "-" ++ printableByte last ++
            "' are in reverse collating sequence order")
        else also (.range b last) rest
      | rest => also (.byte b) rest
    let again (_ : Unit) : Except String (List SetItem) :=
      match readAgain rest with
      | some (.ok (item, rest)) => also item rest
      | some (.error text) => .error text
      | none => plain ()
    if b = 91 && !escaped then
      match rest with
      | (58, false) :: inside =>
        match behindMark 58 inside [] with
        | some ([], _) => .error "missing character class name '[::]'"
        | some (name, rest) =>
          if (classBytes? (rawText name)).isSome then also (.named (rawText name)) rest
          else .error ("invalid character class " ++ shown (rawText name))
        | none => again ()
      | (61, false) :: inside =>
        match behindMark 61 inside [] with
        | some ([], _) => .error "missing equivalence class character '[==]'"
        | some ([b], rest) => also (.equals b) rest
        | some (text, _) => .error (rawText text ++ ": equivalence class operand must be a single character")
        | none => again ()
      | _ => again ()
    else plain ()

namespace SetItem

/-- The bytes of a part. A repetition without a count gives as many as are
missing. -/
def bytes (missing : Nat) : SetItem → Bytes
  | .byte b => [b]
  | .range first last => (List.range (last.toNat + 1 - first.toNat)).map fun offset => (first.toNat + offset).toUInt8
  | .named name => (classBytes? name).getD []
  | .equals b => [b]
  | .again b count => List.replicate (count.getD missing) b

def isOpen : SetItem → Bool
  | .again _ none => true
  | _ => false

def isCased (item : SetItem) : Bool := item == .named "upper" || item == .named "lower"

def isClass : SetItem → Bool
  | .named _ => true
  | _ => false

def placed (missing : Nat) (items : List SetItem) : List (Nat × SetItem) :=
  (items.foldl (fun ((place : Nat), (done : List (Nat × SetItem))) item =>
    (place + (item.bytes missing).length, (place, item) :: done)) (0, [])).2.reverse

end SetItem

def translation (source target : Bytes) : UInt8 → UInt8 :=
  let pairs := (source.zip target).reverse
  let table := ((List.range 256).map fun value => (pairs.lookup value.toUInt8).getD value.toUInt8).toArray
  fun b => table.getD b.toNat b

def squeezeBytes (set : UInt8 → Bool) (last : Option UInt8) (data : Bytes) : Bytes × Option UInt8 :=
  let (kept, last) := data.foldl (fun (kept, last) b =>
    if last == some b && set b then (kept, last) else (b :: kept, some b)) (([] : Bytes), last)
  (kept.reverse, last)

def membership (set : Bytes) : UInt8 → Bool :=
  let table := ((List.range 256).map fun value => set.contains value.toUInt8).toArray
  fun b => table.getD b.toNat false

structure Translation where
  change : Bytes → Bytes
  squeezed : Option (UInt8 → Bool)

def readTranslation (options : Options) (first : List SetItem) (second : Option (List SetItem)) : Except String Translation := do
  let complement := options.has 'c' || options.has 'C'
  let translating := second.isSome && !options.has 'd'
  if first.any SetItem.isOpen then .error "the [c*] repeat construct may not appear in string1"
  let listed := first.flatMap (·.bytes 0)
  let source := if complement then ((List.range 256).map Nat.toUInt8).filter fun b => !membership listed b else listed
  let items := second.getD []
  let fixed := (items.flatMap (·.bytes 0)).length
  let missing := source.length - fixed
  let target := items.flatMap (·.bytes missing)
  if (items.filter SetItem.isOpen).length > 1 then .error "only one [c*] repeat construct may appear in string2"
  if translating then
    if items.any fun item => match item with
        | .equals _ => true
        | _ => false then
      .error "[=c=] expressions may not appear in string2 when translating"
    if items.any fun item => item.isClass && !item.isCased then
      .error "when translating, the only character classes that may appear in\nstring2 are 'upper' and 'lower'"
    let places := SetItem.placed 0 first
    let aligned := (SetItem.placed missing items).all fun (place, item) =>
      !item.isCased || complement || source.length < place ||
        places.any fun (other, partner) => other = place && partner.isCased
    if !aligned then .error "misaligned [:upper:] and/or [:lower:] construct"
    if target.length < source.length && !options.has 't' then
      if target.isEmpty then .error "when not truncating set1, string2 must be non-empty"
      if (items.getLast?.map SetItem.isClass).getD false then
        .error "when translating with string1 longer than string2,\nthe latter string must not end with a character class"
    let padded :=
      if options.has 't' then target else target ++ List.replicate (source.length - target.length) (target.getLastD 0)
    let uniform := padded.all (· == padded.headD 0)
    if complement && first.any SetItem.isClass && !(padded.length = source.length && uniform) then
      .error "when translating with complemented character classes,\nstring2 must map all characters in the domain to one"
    let replace := translation source padded
    return ⟨fun data => data.map replace, if options.has 's' then some (membership padded) else none⟩
  else
    if items.any SetItem.isOpen then .error "the [c*] construct may appear in string2 only when translating"
    let inSource := membership source
    if options.has 'd' then
      return ⟨fun data => data.filter (!inSource ·), if options.has 's' then some (membership target) else none⟩
    else return ⟨id, some inSource⟩

def translate : Utility := fun invocation =>
  let table : OptionTable := {
    flags := ['d', 's', 'c', 'C', 't', 'A'], ordered := true
    long := [("delete", 'd'), ("squeeze-repeats", 's'), ("complement", 'c'), ("truncate-set1", 't')] }
  withOptions table invocation 1 fun options =>
    let deletes := options.has 'd'
    let squeezes := options.has 's'
    let least := if deletes == squeezes then 2 else 1
    let most := if deletes && !squeezes then 1 else 2
    let usage (text hint : String) : Program :=
      warn invocation text fun _ =>
        Program.complain (hint ++ "Try '" ++ invocation.name ++ " --help' for more information.\n") fun _ => .exitWith 1
    match options.operands with
    | [] => usage "missing operand" ""
    | first :: others =>
      if others.length + 1 < least then
        usage ("missing operand after " ++ shown first) (if squeezes then
            "Two strings must be given when both deleting and squeezing repeats.\n"
          else "Two strings must be given when translating.\n")
      else if most < others.length + 1 then
        usage ("extra operand " ++ shown ((others[most - 1]?).getD "")) (if most = 1 && others.length = 1 then
          "Only one string may be given when deleting without squeezing repeats.\n" else "")
      else
        let read (word : String) : Except String (List SetItem) × List String :=
          let (items, warnings) := readSetBytes (word.utf8ByteSize + 1) (rawBytes word)
          (readSetItems (items.length + 1) items, warnings)
        let sets := (first :: others).map read
        let sets := sets.take ((sets.takeWhile (·.1.isOk)).length + 1)
        let rec warnAll (next : Unit → Program) : List String → Program
          | [] => next ()
          | text :: rest => warn invocation text fun _ => warnAll next rest
        warnAll (fun _ =>
          let translation : Except String Translation := do
            let items ← (sets.map (·.1)).mapM id
            readTranslation options (items.headD []) items.tail.head?
          match translation with
          | .error text => fail invocation text
          | .ok translation =>
            Program.readBlocks Program.inputDescriptor (none : Option UInt8) (fun last data resume =>
                let data := translation.change data
                let (data, last) :=
                  match translation.squeezed with
                  | some set => squeezeBytes set last data
                  | none => (data, last)
                emit invocation data fun _ => resume last)
              (fun _ failure =>
                match failure with
                | none => .exitWith 0
                | some e => fail invocation ("read error: " ++ e.text)) Program.lifetime) (sets.flatMap (·.2))

end PipeShell.Utility
