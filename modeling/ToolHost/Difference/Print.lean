import ToolHost.Difference.Lines

/-! Differences of texts as they are printed: one stretch after the other, with lines around them, or
as commands that make one text out of the other. -/
namespace ToolHost.Difference

/-- What is printed, and how lines look. -/
structure Look where
  expandTabs : Bool
  tabWidth : Nat
  /-- Whether a tab separates a line from the mark in front of it. -/
  tabBehindMark : Bool
  /-- Whether no blank stands in front of an empty line. -/
  trimsEmpty : Bool
  /-- Which lines make no difference, if there are any. -/
  trivial? : Option (Bytes → Bool)
  /-- Which lines are shown in headings over what follows them. -/
  heads? : Option (Bytes → Bool)

/-- A line with blanks for its tabs. Where it begins anew, what stands in front of it does so too. -/
def printedTabs (width : Nat) (front line : Bytes) : Bytes :=
  (line.foldl (fun (state : Bytes × Nat × Nat) b =>
    let (done, column, place) := state
    let place := place + 1
    if b = 0x09 then
      let blanks := width - column % width
      (List.replicate blanks 0x20 ++ done, column + blanks, place)
    else if b = 0x0d then
      ((if place = line.length then [] else front.reverse) ++ b :: done, 0, place)
    else if b = 0x08 then if column = 0 then (done, 0, place) else (b :: done, column - 1, place)
    else (b :: done, if 0x20 ≤ b && b < 0x7f then column + 1 else column, place))
    ([], 0, 0)).1.reverse

namespace Look

/-- A line without its end behind something. -/
def behind (look : Look) (front : Bytes) (t : Text) (n : Nat) : Bytes :=
  front ++ (if look.expandTabs then printedTabs look.tabWidth front (t.line n) else t.line n)

/-- A line without its end. -/
def bare (look : Look) (t : Text) (n : Nat) : Bytes := look.behind [] t n

/-- A line behind something, and what is said if it has no end. -/
def line (look : Look) (front : Bytes) (t : Text) (n : Nat) : Bytes :=
  look.behind front t n ++
    (if t.isEnded n then [0x0a] else "\n\\ No newline at end of file\n".toUTF8.toList)

/-- A line with an end only if it has one. -/
def plainLine (look : Look) (t : Text) (n : Nat) : Bytes :=
  look.bare t n ++ (if t.isEnded n then [0x0a] else [])

/-- A line behind a mark and a blank. -/
def markedLine (look : Look) (mark : UInt8) (t : Text) (n : Nat) : Bytes :=
  let front : Bytes :=
    if look.trimsEmpty && t.line n = [] then (if mark = 0x20 then [] else [mark])
    else [mark, if look.tabBehindMark then 0x09 else 0x20]
  look.line front t n

/-- A line right behind a mark. -/
def tightLine (look : Look) (mark : UInt8) (t : Text) (n : Nat) : Bytes :=
  let empty := look.trimsEmpty && t.line n = []
  let front : Bytes := if look.tabBehindMark then (if mark = 0x20 then [0x09] else [mark, 0x09])
    else [mark]
  (if empty then front.filter fun b => b != 0x20 && b != 0x09 else front) ++ look.line [] t n

/-- Whether lines make no difference. -/
def isTrivial (look : Look) (a b : Text) (changes : List Change) : Bool :=
  match look.trivial? with
  | none => false
  | some trivial => changes.all fun c =>
    (List.range' c.left c.deleted).all (fun n => trivial (a.line n)) &&
      (List.range' c.right c.inserted).all fun n => trivial (b.line n)

end Look

/-- Changes that are shown together, in the lines that they take up. -/
structure Hunk where
  changes : List Change
  leftFirst : Nat
  leftEnd : Nat
  rightFirst : Nat
  rightEnd : Nat

namespace Hunk

/-- The hunk of some changes that stand one after the other. -/
def ofChanges (changes : List Change) : Hunk :=
  let first := changes.headD ⟨0, 0, 0, 0⟩
  let last := changes.getLastD ⟨0, 0, 0, 0⟩
  ⟨changes, first.left, last.left + last.deleted, first.right, last.right + last.inserted⟩

def deletes (h : Hunk) : Bool := h.changes.any fun c => 0 < c.deleted

def inserts (h : Hunk) : Bool := h.changes.any fun c => 0 < c.inserted

/-- The hunk with some lines more around it. -/
def widened (h : Hunk) (around : Nat) (a b : Text) : Hunk :=
  { h with
    leftFirst := h.leftFirst - around
    leftEnd := min a.size (h.leftEnd + around)
    rightFirst := h.rightFirst - around
    rightEnd := min b.size (h.rightEnd + around) }

/-- The letter for what happens in a hunk. -/
def letter (h : Hunk) : String :=
  if !h.deletes then "a" else if !h.inserts then "d" else "c"

end Hunk

/-- Puts changes together between which there are only few lines. A change that makes no difference
has to be nearer to the one before it. -/
def group (look : Look) (a b : Text) (around : Nat) : List Change → List (List Change)
  | [] => []
  | c :: rest =>
    match group look a b around rest with
    | (next :: more) :: groups =>
      let most := if look.isTrivial a b [next] then around else 2 * around + 1
      if next.left - (c.left + c.deleted) < most then (c :: next :: more) :: groups
      else [c] :: (next :: more) :: groups
    | groups => [c] :: groups

/-- The numbers of lines from one up to another one, the last of which does not count. -/
def rangeText (between : String) (first stop : Nat) : String :=
  if first + 1 < stop then s!"{first + 1}{between}{stop}" else toString stop

/-- The lines from one up to another one. -/
def linesBetween (print : Nat → Bytes) (first stop : Nat) : Bytes :=
  (List.range' first (stop - first)).flatMap print

def textBytes (text : String) : Bytes := text.toUTF8.toList

/-- A hunk with the lines that go and those that come. -/
def normalHunk (look : Look) (a b : Text) (h : Hunk) : Bytes :=
  let title :=
    rangeText "," h.leftFirst h.leftEnd ++ h.letter ++ rangeText "," h.rightFirst h.rightEnd ++ "\n"
  textBytes title ++
    linesBetween (look.markedLine 0x3c a) h.leftFirst h.leftEnd ++
    (if h.deletes && h.inserts then textBytes "---\n" else []) ++
    linesBetween (look.markedLine 0x3e b) h.rightFirst h.rightEnd

/-- What a heading says of the last line before some line that is shown in headings. -/
def headText (look : Look) (t : Text) (before : Nat) : Bytes :=
  match look.heads? with
  | none => []
  | some isHead =>
    match (List.range before).reverse.find? fun n => isHead (t.line n) with
    | none => []
    | some n => 0x20 :: withoutBlanksAtEnd (((t.line n).dropWhile isBlank).take 40)

/-- The numbers of lines, with how many there are. -/
def countedRange (first stop : Nat) : String :=
  if stop = first then s!"{stop},0"
  else if stop = first + 1 then toString stop
  else s!"{first + 1},{stop - first}"

/-- The lines of a unified hunk from a line of the first text on, up to another one. -/
def unifiedLines (look : Look) (a b : Text) (stop : Nat) : Nat → List Change → Bytes
  | first, [] => linesBetween (look.tightLine 0x20 a) first stop
  | first, c :: rest =>
    linesBetween (look.tightLine 0x20 a) first c.left ++
      linesBetween (look.tightLine 0x2d a) c.left (c.left + c.deleted) ++
      linesBetween (look.tightLine 0x2b b) c.right (c.right + c.inserted) ++
      unifiedLines look a b stop (c.left + c.deleted) rest

/-- A hunk in which the lines that go and come stand among those around them. -/
def unifiedHunk (look : Look) (around : Nat) (a b : Text) (h : Hunk) : Bytes :=
  let w := h.widened around a b
  let title :=
    s!"@@ -{countedRange w.leftFirst w.leftEnd} +{countedRange w.rightFirst w.rightEnd} @@"
  textBytes title ++ headText look a w.leftFirst ++ [0x0a] ++
    unifiedLines look a b w.leftEnd w.leftFirst h.changes

/-- The mark of a line in one of two texts, given where the changes are in it, whether they take part
in the other text as well, and the mark for those that do not. -/
def contextMark (spans : List (Nat × Nat × Bool)) (alone : UInt8) (n : Nat) : UInt8 :=
  match spans.find? fun (first, stop, _) => first ≤ n && n < stop with
  | none => 0x20
  | some (_, _, both) => if both then 0x21 else alone

/-- A hunk that shows one text after the other. -/
def contextHunk (look : Look) (around : Nat) (a b : Text) (h : Hunk) : Bytes :=
  let w := h.widened around a b
  let left := h.changes.map fun c => (c.left, c.left + c.deleted, decide (0 < c.inserted))
  let right := h.changes.map fun c => (c.right, c.right + c.inserted, decide (0 < c.deleted))
  let shown (t : Text) (spans : List (Nat × Nat × Bool)) (alone : UInt8) (n : Nat) : Bytes :=
    look.markedLine (contextMark spans alone n) t n
  let leftRange := rangeText "," w.leftFirst w.leftEnd
  let rightRange := rangeText "," w.rightFirst w.rightEnd
  textBytes "***************" ++ headText look a w.leftFirst ++
    textBytes s!"\n*** {leftRange} ****\n" ++
    (if h.deletes then linesBetween (shown a left 0x2d) w.leftFirst w.leftEnd else []) ++
    textBytes s!"--- {rightRange} ----\n" ++
    (if h.inserts then linesBetween (shown b right 0x2b) w.rightFirst w.rightEnd else [])

/-- Lines as an editor takes them in; one that would end the input is changed on its way. -/
def dictated (look : Look) (b : Text) : Bool → List Nat → Bytes
  | open?, [] => if open? then textBytes ".\n" else []
  | open?, n :: rest =>
    let front := if open? then [] else textBytes "a\n"
    if b.line n = [0x2e] then
      front ++ textBytes "..\n.\ns/.//\n" ++ dictated look b false rest
    else front ++ look.bare b n ++ [0x0a] ++ dictated look b true rest

/-- A hunk as a command for an editor. -/
def editorHunk (look : Look) (b : Text) (h : Hunk) : Bytes :=
  textBytes (rangeText "," h.leftFirst h.leftEnd ++ h.letter ++ "\n") ++
    (if h.inserts then
      dictated look b true (List.range' h.rightFirst (h.rightEnd - h.rightFirst))
    else [])

/-- A hunk as a command for an editor that begins at the front, the letter first. -/
def forwardHunk (look : Look) (b : Text) (h : Hunk) : Bytes :=
  textBytes (h.letter ++ rangeText " " h.leftFirst h.leftEnd ++ "\n") ++
    (if h.inserts then
      linesBetween (fun n => look.bare b n ++ [0x0a]) h.rightFirst h.rightEnd ++ textBytes ".\n"
    else [])

/-- A hunk as numbers of lines that go and lines that come. -/
def countedHunk (look : Look) (b : Text) (h : Hunk) : Bytes :=
  (if h.deletes then textBytes s!"d{h.leftFirst + 1} {h.leftEnd - h.leftFirst}\n" else []) ++
    (if h.inserts then
      textBytes s!"a{h.leftEnd} {h.rightEnd - h.rightFirst}\n" ++
        linesBetween (look.plainLine b) h.rightFirst h.rightEnd
    else [])

end ToolHost.Difference
