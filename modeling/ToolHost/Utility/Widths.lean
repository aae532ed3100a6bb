import ToolHost.Utility.Format
import ToolHost.Utility.Names

/-! The programs that break lines at a width, and put blanks for tabs or tabs for blanks. -/
namespace ToolHost.Utility

/-- The column behind a byte, where a byte counts for one, or for what it does to a terminal. -/
def columnBehind (bytes : Bool) (column : Nat) (b : UInt8) : Nat :=
  if bytes then column + 1
  else if b = 0x08 then column - 1
  else if b = 0x0d then 0
  else if b = 0x09 then column / 8 * 8 + 8
  else column + 1

namespace Folding

/-- What is asked for. -/
structure Task where
  width : Nat
  atBlanks : Bool
  bytes : Bool

/-- A line that is being broken. -/
structure Progress where
  /-- What is printed, the last part first. -/
  done : List Bytes := []
  /-- The piece that is being filled, the last byte first. -/
  piece : Bytes := []
  column : Nat := 0

def isBlank (b : UInt8) : Bool := b = 0x20 || b = 0x09

/-- Adds a byte, behind a break if it would stand beyond the width. The number bounds how many breaks
there are. -/
def Task.add (t : Task) (b : UInt8) : Nat → Progress → Progress
  | 0, s => { s with piece := b :: s.piece }
  | fuel + 1, s =>
    if b = 0x0a then { done := (b :: s.piece).reverse :: s.done }
    else
      let column := columnBehind t.bytes s.column b
      let behind := s.piece.takeWhile fun b => !isBlank b
      if column ≤ t.width then { s with piece := b :: s.piece, column := column }
      else if t.atBlanks && behind.length < s.piece.length then
        let kept := (s.piece.drop behind.length).reverse ++ [0x0a]
        t.add b fuel
          { done := kept :: s.done
            piece := behind
            column := behind.reverse.foldl (columnBehind t.bytes) 0 }
      else if s.piece.isEmpty then { s with piece := [b], column := column }
      else t.add b fuel { done := (0x0a :: s.piece).reverse :: s.done }

/-- Bytes with breaks in lines that are too long. -/
def Task.fold (t : Task) (bytes : Bytes) : Bytes :=
  let s := bytes.foldl (fun s b => t.add b (s.piece.length + 2) s) {}
  (s.piece.reverse :: s.done).reverse.flatten

end Folding

/-- Words with options that are numbers spelled as those with a letter. Other characters may stand
among the digits. -/
def withNumbers (letter : Char) (others : List Char) (words : List String) : List String :=
  words.map fun word =>
    match word.toList with
    | '-' :: c :: rest =>
      if c.isDigit && rest.all fun c => c.isDigit || c ∈ others then
        String.ofList ('-' :: letter :: c :: rest) else word
    | _ => word

/-- Breaks long lines. -/
def fold : Program := fun _ words => withOptions
  { letters := "w:sb", words := [("width", 'w'), ("spaces", 's'), ("bytes", 'b')] }
  (fun o => do
    let text := (o.last? 'w').getD "80"
    match text.toNat? with
    | none =>
      Doing.complain s!"invalid number of columns: {cited text}"
      return 1
    | some 0 =>
      Doing.complain s!"invalid number of columns: {cited text}: Numerical result out of range"
      return 1
    | some width =>
      let (contents, failed) ← readOperands o.operands
      let task : Folding.Task := { width, atBlanks := o.has 's', bytes := o.has 'b' }
      for (_, bytes) in contents do Doing.printBytes (task.fold bytes)
      return if failed then 1 else 0) (withNumbers 'w' [] words)

namespace Tabs

/-- Where tabs stop: at the columns of a list, and behind its last one at regular distances, if there
are any. -/
structure Stops where
  columns : List Nat
  /-- How far the others are apart, counted from the first column. -/
  every? : Option Nat := none
  /-- How far the others are apart, counted from the last one of the list. -/
  onward? : Option Nat := none

/-- The next stop behind a column. -/
def Stops.next? (s : Stops) (column : Nat) : Option Nat :=
  match s.columns with
  | [] => s.every?.map fun n => column + (n - column % n)
  | [n] =>
    if column < n then some n else beyond n
  | columns =>
    match columns.find? (column < ·) with
    | some n => some n
    | none => beyond (columns.getLastD 0)
where
  /-- The next stop behind the last one of the list. -/
  beyond (last : Nat) : Option Nat :=
    match s.every?, s.onward? with
    | some n, _ => some (column + (n - column % n))
    | none, some n => some (column + (n - (column - last) % n))
    | none, none => none

/-- Reads the parts of a list of stops. -/
def readParts : List (List Char) → Stops → Except String Stops
  | [], s => .ok s
  | [] :: rest, s => readParts rest s
  | (mark :: digits) :: rest, s =>
    let special := mark = '/' || mark = '+'
    let text := if special then digits else mark :: digits
    let bad := text.dropWhile Char.isDigit
    if s.every?.isSome || s.onward?.isSome then
      let other := if s.every?.isSome then "/" else "+"
      .error s!"{cited other} specifier only allowed with the last value"
    else if !bad.isEmpty then
      .error s!"tab size contains invalid character(s): {cited (String.ofList bad)}"
    else
      let n := valueIn 10 text
      if greatestCount < n then .error s!"tab stop is too large {cited (String.ofList text)}"
      else if special then
        readParts rest (if n = 0 then s else if mark = '/' then { s with every? := some n }
          else { s with onward? := some n })
      else if n = 0 then .error "tab size cannot be 0"
      else if s.columns.any (n ≤ ·) then .error "tab sizes must be ascending"
      else readParts rest { s with columns := s.columns ++ [n] }

/-- The stops that options ask for: eight columns apart if they ask for none. -/
def readStops (o : Options) : Except String Stops := do
  let texts := o.options.filterMap fun (c, value) => if c = 't' then some value else none
  let parts := texts.flatMap fun text =>
    Path.splitAt ',' (text.toList.map fun c => if c = ' ' || c = '\t' then ',' else c)
  let stops ← readParts parts { columns := [] }
  match stops.columns, stops.every?, stops.onward? with
  | [], none, none => return { columns := [], every? := some 8 }
  | [], none, some n => return { columns := [], every? := some n }
  | [n], none, none => return { columns := [], every? := some n }
  | _, _, _ => return stops

/-- A line that is being changed. -/
structure Progress where
  /-- What is printed, the last byte first. -/
  done : Bytes := []
  column : Nat := 0
  /-- Whether blanks are still replaced. -/
  replacing : Bool := true
  /-- The blanks that may become a tab, the last one first. -/
  pending : Bytes := []
  /-- Whether the first one of these stands right before a stop. -/
  alone : Bool := false
  behindBlank : Bool := true

/-- Adds a byte to a line without tabs. -/
def Stops.addExpanded (stops : Stops) (everywhere : Bool) (s : Progress) (b : UInt8) : Progress :=
  if b = 0x0a then { done := b :: s.done }
  else if !s.replacing then { s with done := b :: s.done }
  else
    let replacing := everywhere || b = 0x20 || b = 0x09
    if b = 0x09 then
      let next := (stops.next? s.column).getD (s.column + 1)
      { s with
        done := List.replicate (next - s.column) 0x20 ++ s.done
        column := next
        replacing := replacing }
    else
      { s with
        done := b :: s.done
        column := if b = 0x08 then s.column - 1 else s.column + 1
        replacing := replacing }

/-- The progress with what is pending printed. -/
def Progress.settle (s : Progress) : Progress :=
  let pending := s.pending.reverse
  let pending : Bytes := if 1 < pending.length && s.alone then 0x09 :: pending.drop 1 else pending
  { s with done := pending.reverse ++ s.done, pending := [], alone := false }

/-- Adds a byte to a line with tabs for blanks. -/
def Stops.addUnexpanded (stops : Stops) (everywhere : Bool) (s : Progress) (b : UInt8) : Progress :=
  let put (s : Progress) (b : UInt8) : Progress :=
    if b = 0x0a then { done := b :: s.done } else { s with done := b :: s.done }
  if !s.replacing then put s b
  else
    let blank := b = 0x20 || b = 0x09
    let finish (s : Progress) (b : UInt8) : Progress :=
      put { s.settle with
        behindBlank := blank
        replacing := s.replacing && (everywhere || blank) } b
    if !blank then
      let column := if b = 0x08 then s.column - 1 else s.column + 1
      finish { s with column := column } b
    else
      match stops.next? s.column with
      | none => finish { s with replacing := false } b
      | some next =>
        let kept (s : Progress) (first : UInt8) : Progress :=
          { s with pending := if s.alone then [first] else [] }
        if b = 0x09 then
          let first := if s.pending.isEmpty then b else 0x09
          finish (kept { s with column := next } first) b
        else
          let column := s.column + 1
          let s := { s with column := column }
          if !(s.behindBlank && column = next) then
            { s with
              alone := s.alone || column = next
              pending := b :: s.pending
              behindBlank := true }
          else finish (kept s 0x09) 0x09

/-- The long options for stops. -/
def table (all : Bool) : OptionTable :=
  if all then
    { letters := "at:"
      inner := "F"
      words := [("all", 'a'), ("first-only", 'F'), ("tabs", 't')] }
  else { letters := "it:", words := [("initial", 'i'), ("tabs", 't')] }

end Tabs

open Tabs in
/-- Puts blanks for tabs. -/
def expand : Program := fun _ words => withOptions (table false) (fun o => do
  match readStops o with
  | .error problem =>
    Doing.complain problem
    return 1
  | .ok stops =>
    let (contents, failed) ← readOperands o.operands
    let bytes := contents.flatMap Prod.snd
    let s := bytes.foldl (stops.addExpanded (!o.has 'i')) {}
    Doing.printBytes s.done.reverse
    return if failed then 1 else 0) (withNumbers 't' [','] words)

open Tabs in
/-- Puts tabs for blanks. -/
def unexpand : Program := fun _ words => withOptions (table true) (fun o => do
  match readStops o with
  | .error problem =>
    Doing.complain problem
    return 1
  | .ok stops =>
    let (contents, failed) ← readOperands o.operands
    let bytes := contents.flatMap Prod.snd
    let everywhere := (o.has 'a' || o.has 't') && !o.has 'F'
    let s := (bytes.foldl (stops.addUnexpanded everywhere) {}).settle
    Doing.printBytes s.done.reverse
    return if failed then 1 else 0) (withNumbers 't' [','] words)

end ToolHost.Utility
