import Std.Data.HashMap
import ToolHost.Difference.Script
import ToolHost.Machine.Files

/-! Texts as lines, and how the lines of two texts differ. -/
namespace ToolHost.Difference

/-- A text as lines without their ends. -/
structure Text where
  lines : Array Bytes
  /-- Whether the last line has an end, or there is none. -/
  ended : Bool
  deriving DecidableEq, Repr

/-- The lines of bytes. -/
def Text.ofBytes (bytes : Bytes) : Text :=
  let (lines, last) := bytes.foldl (fun (state : Array Bytes × Bytes) b =>
    if b = 0x0a then (state.1.push state.2.reverse, []) else (state.1, b :: state.2)) (#[], [])
  if last.isEmpty then ⟨lines, true⟩ else ⟨lines.push last.reverse, false⟩

def Text.size (t : Text) : Nat := t.lines.size

/-- The line with a number, counted from zero. -/
def Text.line (t : Text) (n : Nat) : Bytes := t.lines.getD n []

/-- Whether a line has an end. -/
def Text.isEnded (t : Text) (n : Nat) : Bool := t.ended || n + 1 < t.size

/-- Which blanks make no difference. -/
inductive Blanks where
  | matter
  /-- A tab is as good as the blanks that it stands for. -/
  | tabsAsBlanks
  /-- Those at the end of a line do not matter. -/
  | exceptAtEnd
  | tabsAsBlanksExceptAtEnd
  /-- One is as good as several, and those at the end of a line do not matter. -/
  | asOne
  | never
  deriving DecidableEq, Repr

/-- Whether blanks at the end of a line do not matter. -/
def Blanks.endsMatter : Blanks → Bool
  | matter | tabsAsBlanks => true
  | _ => false

/-- When lines count as equal. -/
structure Sameness where
  blanks : Blanks
  ignoreCase : Bool
  /-- How far tab stops are apart. -/
  tabWidth : Nat
  deriving DecidableEq, Repr

def isBlank (b : UInt8) : Bool := b = 0x20 || (0x09 ≤ b && b ≤ 0x0d)

/-- A line with blanks for each tab. -/
def withoutTabs (width : Nat) (line : Bytes) : Bytes :=
  (line.foldl (fun (state : Bytes × Nat) b =>
    let (done, column) := state
    if b = 0x09 then
      let blanks := width - column % width
      (List.replicate blanks 0x20 ++ done, column + blanks)
    else (b :: done, column + 1)) ([], 0)).1.reverse

def withoutBlanksAtEnd (line : Bytes) : Bytes := (line.reverse.dropWhile isBlank).reverse

/-- A line with one blank in place of several. -/
def withSingleBlanks (line : Bytes) : Bytes :=
  (line.foldl (fun (state : Bytes × Bool) b =>
    let (done, behindBlank) := state
    if isBlank b then (if behindBlank then done else 0x20 :: done, true) else (b :: done, false))
    ([], false)).1.reverse

namespace Sameness

/-- The line that stands for all that count as equal to a line. -/
def plain (s : Sameness) (line : Bytes) : Bytes :=
  let line := match s.blanks with
    | .matter => line
    | .tabsAsBlanks => withoutTabs s.tabWidth line
    | .exceptAtEnd => withoutBlanksAtEnd line
    | .tabsAsBlanksExceptAtEnd => withoutBlanksAtEnd (withoutTabs s.tabWidth line)
    | .asOne => withSingleBlanks (withoutBlanksAtEnd line)
    | .never => line.filter fun b => !isBlank b
  if s.ignoreCase then line.map fun b => if 0x41 ≤ b && b ≤ 0x5a then b + 0x20 else b else line

end Sameness

/-- How much of two texts is equal at the front and at the end. Of what is equal, so many lines are
left out of account at each side. -/
def equalEnds (a b : Text) (marginal : Nat) (endsMatter : Bool) : Nat × Nat :=
  let same (n m : Nat) : Bool :=
    a.line n == b.line m && (!endsMatter || a.isEnded n == b.isEnded m)
  let least := min a.size b.size
  let front := ((List.range least).takeWhile fun n => same n n).length - marginal
  let ends := !endsMatter || a.ended == b.ended
  let back := ((List.range (least - front)).takeWhile fun n =>
    ends && same (a.size - 1 - n) (b.size - 1 - n)).length - marginal
  (front, back)

/-- Numbers for lines, equal ones for lines that count as equal. -/
def keysOf (same : Sameness) (endsMatter : Bool) (a b : Text) : Array Nat × Array Nat :=
  let mark (t : Text) (n : Nat) : Bytes × Bool :=
    (same.plain (t.line n), endsMatter && same.blanks.endsMatter && !t.isEnded n)
  let number (t : Text) (state : Array Nat × Std.HashMap (Bytes × Bool) Nat) (n : Nat) :
      Array Nat × Std.HashMap (Bytes × Bool) Nat :=
    let (keys, known) := state
    let line := mark t n
    match known[line]? with
    | some key => (keys.push key, known)
    | none => (keys.push (known.size + 1), known.insert line (known.size + 1))
  let (left, known) := (List.range a.size).foldl (number a) (#[], ∅)
  let (right, _) := (List.range b.size).foldl (number b) (#[], known)
  (left, right)

/-- Whether a line can be left out of the search for what two texts share. -/
inductive Use where
  | keep
  /-- Nothing in the other text equals it. -/
  | drop
  /-- Very much in the other text equals it. -/
  | maybe
  deriving DecidableEq, Repr

/-- A power of two near the square root of a number. -/
def halvedTwice : Nat → Nat → Nat → Nat
  | 0, _, n => n
  | fuel + 1, size, n => if size / 4 = 0 then n else halvedTwice fuel (size / 4) (2 * n)

/-- What becomes of the doubtful lines in a stretch from which lines are dropped, up to the first
place where several in a row are. -/
def settleEdge : Nat → Nat → List Use → List Use
  | _, _, [] => []
  | place, inRow, use :: uses =>
    if 8 ≤ place && use = .drop then use :: uses
    else
      match use with
      | .maybe => .keep :: settleEdge (place + 1) 0 uses
      | .keep => .keep :: settleEdge (place + 1) 0 uses
      | .drop => .drop :: (if inRow = 2 then uses else settleEdge (place + 1) (inRow + 1) uses)

/-- A stretch from which lines are dropped: those in doubt stay unless only few of them stand
together between others. -/
def settleStretch (stretch : List Use) : List Use :=
  let doubtful := stretch.count .maybe
  if stretch.length < doubtful * 4 then
    stretch.map fun use => if use = .maybe then .keep else use
  else
    let least := halvedTwice stretch.length (stretch.length / 4) 1 + 1
    let runs := stretch.splitBy fun a b => (a == .maybe) == (b == .maybe)
    let uses := (runs.map fun run =>
      if run.head? = some .maybe && least ≤ run.length then run.map fun _ => .keep else run).flatten
    (settleEdge 0 0 (settleEdge 0 0 uses).reverse).reverse

/-- Settles which lines are dropped, stretch by stretch. A stretch begins and ends with lines that
are dropped for certain. -/
def settleUses : Nat → List Use → List Use
  | 0, uses => uses
  | _, [] => []
  | fuel + 1, .drop :: uses =>
    let stretch := .drop :: uses.takeWhile (· != .keep)
    let tail := (stretch.reverse.takeWhile (· == .maybe)).length
    let inner := stretch.take (stretch.length - tail)
    settleStretch inner ++ List.replicate tail .keep ++
      settleUses fuel (uses.drop (stretch.length - 1))
  | fuel + 1, _ :: uses => .keep :: settleUses fuel uses

/-- How often each key stands in a sequence. -/
def countKeys (keys : Array Nat) : Std.HashMap Nat Nat :=
  keys.foldl (fun counts key => counts.insert key (counts.getD key 0 + 1)) ∅

/-- Which elements of a sequence are used in the search for what it shares with another one. -/
def usesOf (keys : Array Nat) (others : Std.HashMap Nat Nat) : List Use :=
  let many := halvedTwice keys.size (keys.size / 64) 5
  settleUses (keys.size + 1) <| keys.toList.map fun key =>
    let count := others.getD key 0
    if count = 0 then .drop else if many < count then .maybe else .keep

/-- Marks on a sequence from the marks on those of its elements that were used. -/
def spreadMarks (marks : Array Bool) (uses : List Use) : Array Bool :=
  (uses.foldl (fun (state : Array Bool × Nat) use =>
    let (done, n) := state
    if use = .drop then (done.push true, n) else (done.push (marks.getD n false), n + 1))
    (#[], 0)).1

/-- The stretches in which the lines of two texts differ. -/
def changesOf (same : Sameness) (minimal : Bool) (marginal : Nat) (endsMatter : Bool)
    (a b : Text) : List Change :=
  let (front, back) := equalEnds a b marginal endsMatter
  let (left, right) := keysOf same endsMatter a b
  let left := left.extract front (a.size - back)
  let right := right.extract front (b.size - back)
  let usesOf (keys others : Array Nat) : List Use :=
    if minimal then keys.toList.map fun _ => .keep else Difference.usesOf keys (countKeys others)
  let leftUses := usesOf left right
  let rightUses := usesOf right left
  let kept (keys : Array Nat) (uses : List Use) : Array Nat :=
    ((keys.toList.zip uses).filterMap fun (key, use) =>
      if use = .drop then none else some key).toArray
  let marks := markAll (kept left leftUses) (kept right rightUses)
  let marks := { marks with left := spreadMarks marks.left leftUses }
  let marks := { marks with right := spreadMarks marks.right rightUses }
  (marks.shifted left right).changes.map fun c =>
    { c with left := c.left + front, right := c.right + front }

end ToolHost.Difference
