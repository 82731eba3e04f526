import PipeShell.Utility.Sort.Key

/-! # Orders of lines

Lines are compared by their keys, one after the other; the lines themselves decide
where all keys agree. -/

set_option autoImplicit false

namespace PipeShell.Utility

structure SortOrder where
  keys : List SortKey
  separator : Option UInt8 := none
  /-- Whether lines that have keys keep their order where all keys agree. -/
  stable : Bool := false
  reverse : Bool := false

namespace SortOrder

abbrev Row := List SortValue × Bytes

def row (order : SortOrder) (line : Bytes) : Row := (order.keys.map (·.value order.separator line), line)

def compareKeys : List SortKey → List SortValue → List SortValue → Ordering
  | key :: keys, a :: as, b :: bs =>
    match a.compare b with
    | .eq => compareKeys keys as bs
    | order => if key.has 'r' then order.swap else order
  | _, _, _ => .eq

def compareRows (order : SortOrder) (a b : Row) : Ordering :=
  match compareKeys order.keys a.1 b.1 with
  | .eq =>
    if order.stable && !order.keys.isEmpty then .eq
    else if order.reverse then compareBytes b.2 a.2
    else compareBytes a.2 b.2
  | found => found

def distinctRows (order : SortOrder) : List Row → List Row → List Row
  | kept, [] => kept.reverse
  | kept, row :: rest =>
    if (kept.head?.map fun before => order.compareRows before row == .eq).getD false then distinctRows order kept rest
    else distinctRows order (row :: kept) rest

def disorder? (order : SortOrder) (strict : Bool) : Nat → Row → List Row → Option (Nat × Row)
  | _, _, [] => none
  | number, before, row :: rest =>
    let found := order.compareRows before row
    if found == .gt || (strict && found == .eq) then some (number, row) else disorder? order strict (number + 1) row rest

def takeSmallest (order : SortOrder) : List (List Row) → Option (Row × List (List Row))
  | [] => none
  | [] :: rest => takeSmallest order rest
  | (row :: rows) :: rest =>
    match takeSmallest order rest with
    | none => some (row, rows :: rest)
    | some (other, others) =>
      if order.compareRows row other == .gt then some (other, (row :: rows) :: others) else some (row, rows :: rest)

def merge (order : SortOrder) : Nat → List (List Row) → List Row → List Row
  | 0, _, done => done.reverse
  | bound + 1, lists, done =>
    match takeSmallest order lists with
    | none => done.reverse
    | some (row, lists) => merge order bound lists (row :: done)

end SortOrder

end PipeShell.Utility
