import ToolHost.Difference.Print

/-! Two texts next to each other, in two columns with a mark between them. -/
namespace ToolHost.Difference

/-- How two columns stand next to each other. -/
structure Columns where
  /-- How wide a column is. -/
  half : Nat
  /-- Where the second column begins. -/
  second : Nat
  /-- Whether equal lines stand in the first column alone. -/
  leftOnly : Bool
  /-- Whether equal lines are left out. -/
  hidesEqual : Bool
  deriving DecidableEq, Repr

namespace Columns

/-- The narrowest space between two columns. -/
def leastGap : Nat := 3

/-- Columns that are as wide as a line of some width lets them be. Unless tabs become blanks, the
second column begins at a tab stop. -/
def ofWidth (look : Look) (width : Nat) (leftOnly hidesEqual : Bool) : Columns :=
  let step := if look.expandTabs then 1 else look.tabWidth
  let middle := width / 2 + (step + leastGap) / 2 +
    (if width % 2 = 1 && (step + leastGap) % 2 = 1 then 1 else 0)
  let second := middle - middle % step
  let half := min (second - leastGap) (width - second)
  ⟨half, if half = 0 then width else second, leftOnly, hidesEqual⟩

/-- Blanks from one column to another one. -/
def blanksTo (look : Look) (first last : Nat) : Bytes :=
  if look.expandTabs then List.replicate (last - first) 0x20
  else
    let stop := last - last % look.tabWidth
    if first < stop then
      let tabs := stop / look.tabWidth - first / look.tabWidth
      List.replicate tabs 0x09 ++ List.replicate (last - stop) 0x20
    else List.replicate (last - first) 0x20

/-- Where a line stands that is written into a column. -/
structure Cursor where
  done : Bytes
  /-- The place that the line has come to. -/
  wanted : Nat
  /-- The place that what is written has come to. -/
  reached : Nat

/-- Writes one byte of a line into a column. -/
def writeByte (look : Look) (indent bound : Nat) (c : Cursor) (b : UInt8) : Cursor :=
  if b = 0x09 then
    let blanks := look.tabWidth - c.wanted % look.tabWidth
    let stop := c.reached + blanks
    if c.wanted != c.reached then { c with wanted := c.wanted + blanks }
    else if look.expandTabs then
      let stop := min bound stop
      { done := List.replicate (stop - c.reached) 0x20 ++ c.done
        wanted := c.wanted + blanks
        reached := max c.reached stop }
    else if stop < bound then ⟨b :: c.done, c.wanted + blanks, stop⟩
    else { c with wanted := c.wanted + blanks }
  else if b = 0x0d then ⟨(blanksTo look 0 indent).reverse ++ b :: c.done, 0, 0⟩
  else if b = 0x08 then
    if c.wanted = 0 then c
    else
      let wanted := c.wanted - 1
      if bound ≤ wanted then { c with wanted := wanted }
      else if c.reached ≤ wanted then
        ⟨List.replicate (wanted - c.reached) 0x20 ++ c.done, wanted, wanted⟩
      else ⟨b :: c.done, wanted, wanted⟩
  else if 0x20 ≤ b && b < 0x7f then
    if c.wanted < bound then ⟨b :: c.done, c.wanted + 1, c.wanted + 1⟩
    else { c with wanted := c.wanted + 1 }
  else if b = 0x0b || b = 0x0c then
    if c.wanted < bound then { c with done := b :: c.done } else c
  else if c.wanted ≤ bound then { c with done := b :: c.done, reached := c.wanted }
  else c

/-- A line as it stands in a column, and where it ends there. -/
def cell (look : Look) (indent bound : Nat) (line : Bytes) : Bytes × Nat :=
  let c := line.foldl (writeByte look indent bound) ⟨[], 0, 0⟩
  (c.done.reverse, c.reached)

/-- A row: a line of one text or of both, with a mark between them. -/
def row (columns : Columns) (look : Look) (a b : Text) (left? : Option Nat) (mark : UInt8)
    (right? : Option Nat) : Bytes :=
  let leftEnded := left?.any a.isEnded
  let rightEnded := right?.any b.isEnded
  let (first, column) := match left? with
    | some n => cell look 0 columns.half (a.line n)
    | none => ([], 0)
  let mark := if mark = 0x7c && leftEnded != rightEnded then (if leftEnded then 0x2f else 0x5c)
    else mark
  let place := (columns.half + columns.second - 1) / 2
  let (middle, column) := if mark = 0x20 then ([], column)
    else (blanksTo look column place ++ [mark], max column place + 1)
  let second := match right? with
    | some n =>
      if b.line n = [] && rightEnded then []
      else blanksTo look column columns.second ++
        (cell look columns.second columns.half (b.line n)).1
    | none => []
  first ++ middle ++ second ++ (if leftEnded || rightEnded then [0x0a] else [])

/-- The rows of lines that are the same in both texts, from two lines up to two others. Where lines
make no difference, there may be more of them in one text. -/
def equalRows (columns : Columns) (look : Look) (a b : Text) (x xEnd y yEnd : Nat) : Bytes :=
  if columns.hidesEqual then []
  else
    let both := if columns.leftOnly then 0 else min (xEnd - x) (yEnd - y)
    let rights := if columns.leftOnly then 0 else yEnd - (y + both)
    (List.range both).flatMap (fun n =>
        columns.row look a b (some (x + n)) 0x20 (some (y + n))) ++
      (List.range rights).flatMap (fun n =>
        columns.row look a b none 0x29 (some (y + both + n))) ++
      (List.range (xEnd - (x + both))).flatMap fun n =>
        columns.row look a b (some (x + both + n)) 0x28 none

/-- The rows of a change. -/
def changeRows (columns : Columns) (look : Look) (a b : Text) (c : Change) : Bytes :=
  let both := min c.deleted c.inserted
  (List.range both).flatMap (fun n =>
      columns.row look a b (some (c.left + n)) 0x7c (some (c.right + n))) ++
    (List.range (c.inserted - both)).flatMap (fun n =>
      columns.row look a b none 0x3e (some (c.right + both + n))) ++
    (List.range (c.deleted - both)).flatMap fun n =>
      columns.row look a b (some (c.left + both + n)) 0x3c none

/-- All rows from two lines on. -/
def rowsFrom (columns : Columns) (look : Look) (a b : Text) (x y : Nat) : List Change → Bytes
  | [] => columns.equalRows look a b x a.size y b.size
  | c :: rest =>
    if look.isTrivial a b [c] then rowsFrom columns look a b x y rest
    else
      columns.equalRows look a b x c.left y c.right ++ columns.changeRows look a b c ++
        rowsFrom columns look a b (c.left + c.deleted) (c.right + c.inserted) rest

end Columns
end ToolHost.Difference
