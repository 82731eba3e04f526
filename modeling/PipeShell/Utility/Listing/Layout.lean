import PipeShell.Text.Utf8

/-! # Layout of names

Names are laid out one a line, in columns that are read downwards or across, or one after
the other with a sign between them. Columns stand as close as their longest names allow,
and as many are made as fit on a line. -/

set_option autoImplicit false

namespace PipeShell.Utility

inductive NameLayout where
  | lines
  /-- In columns, read from top to bottom. -/
  | columns
  /-- In columns, read from left to right. -/
  | rows
  | commas
  /-- One name a line, behind all that is known of the file. -/
  | long
  deriving DecidableEq, Repr

structure Cell where
  text : Bytes
  /-- How much of a line it takes. -/
  width : Nat
  deriving DecidableEq, Repr

structure Page where
  /-- How long lines are, if they end at all. -/
  lineWidth : Option Nat := some 80
  /-- How far tabs reach; nothing is done with tabs that reach nowhere. -/
  tabSize : Nat := 8
  ending : UInt8 := 10
  deriving DecidableEq, Repr

/-- The distance between two places of a line: tabs as far as they go, then blanks. -/
def gap (tabSize start stop : Nat) : Bytes :=
  if start < stop then
    if tabSize != 0 && (start + 1) / tabSize < stop / tabSize then
      9 :: gap tabSize (max (start + 1) ((start / tabSize + 1) * tabSize)) stop
    else 32 :: gap tabSize (start + 1) stop
  else []
termination_by stop - start

def leastColumn : Nat := 3

/-- The widths of columns when cells are laid out in so many of them. All but the last one
have a margin. -/
def columnWidths (byRows : Bool) (count : Nat) (widths : List Nat) : List Nat :=
  let rows := (widths.length + count - 1) / count
  (List.range count).map fun column =>
    let margin := if column + 1 = count then 0 else 2
    let members := widths.zipIdx.filter fun (_, index) => (if byRows then index % count else index / rows) = column
    (members.map fun (width, _) => width + margin).foldl max leastColumn

def fitsLine (lineWidth : Nat) (columns : List Nat) : Bool :=
  columns.all (· = leastColumn) || columns.foldl (· + ·) 0 < lineWidth

def columnCount (byRows : Bool) (lineWidth : Nat) (widths : List Nat) : Nat → Nat
  | 0 => 1
  | bound + 1 =>
    if fitsLine lineWidth (columnWidths byRows (bound + 1) widths) then bound + 1
    else columnCount byRows lineWidth widths bound

/-- A line of cells with the widths of their columns; `start` is where the first one
begins. -/
def columnLine (page : Page) (start : Nat) : List (Nat × Cell) → Bytes
  | [] => [page.ending]
  | [(_, cell)] => cell.text ++ [page.ending]
  | (width, cell) :: rest =>
    cell.text ++ gap page.tabSize (start + cell.width) (start + width) ++ columnLine page (start + width) rest

def inColumns (byRows : Bool) (page : Page) (lineWidth : Nat) (cells : List Cell) : Bytes :=
  let widths := cells.map Cell.width
  let most := (lineWidth + leastColumn - 1) / leastColumn
  let count := columnCount byRows lineWidth widths (min cells.length most)
  let columns := columnWidths byRows count widths
  let rows := (cells.length + count - 1) / count
  let table := cells.toArray
  (List.range rows).flatMap fun row =>
    columnLine page 0 (columns.zipIdx.filterMap fun (width, column) =>
      (table[if byRows then row * count + column else column * rows + row]?).map (width, ·))

/-- Cells one after the other with a sign between them; `start` is where the next one
begins. -/
def separated (page : Page) (sign : UInt8) (start : Nat) : List Cell → Bytes
  | [] => [page.ending]
  | [cell] => cell.text ++ [page.ending]
  | cell :: next :: rest =>
    let place := start + cell.width
    let fits := page.lineWidth.all fun lineWidth => place + next.width + 2 < lineWidth
    cell.text ++ [sign, if fits then 32 else page.ending] ++
      separated page sign (if fits then place + 2 else 0) (next :: rest)

def layOut (layout : NameLayout) (page : Page) (cells : List Cell) : Bytes :=
  if cells.isEmpty then []
  else
    match layout, page.lineWidth with
    | .lines, _ | .long, _ => cells.flatMap fun cell => cell.text ++ [page.ending]
    | .columns, some lineWidth => inColumns false page lineWidth cells
    | .rows, some lineWidth => inColumns true page lineWidth cells
    | .columns, none | .rows, none => separated page 32 0 cells
    | .commas, _ => separated page 44 0 cells

end PipeShell.Utility
