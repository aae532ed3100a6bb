/-! Edit scripts: which elements of one sequence have to go, and which of another one have to come in,
so that the first becomes the second. As few as possible do; where there is a choice, a search from
both ends decides. -/
namespace ToolHost.Difference

/-- A stretch in which two sequences differ: where it begins in both, and how many elements it has
there. -/
structure Change where
  left : Nat
  right : Nat
  deleted : Nat
  inserted : Nat
  deriving DecidableEq, Repr

/-- For each element of two sequences, whether the other one does without it. -/
structure Marks where
  left : Array Bool
  right : Array Bool
  deriving DecidableEq, Repr

/-- A part of two sequences. -/
structure Part where
  xFirst : Nat
  xEnd : Nat
  yFirst : Nat
  yEnd : Nat
  deriving DecidableEq, Repr

/-- How far equal elements go on behind two places. -/
def slide (a b : Array Nat) (xEnd yEnd : Nat) : Nat → Nat → Nat → Nat
  | 0, x, _ => x
  | fuel + 1, x, y =>
    if x < xEnd && y < yEnd && a[x]? == b[y]? then slide a b xEnd yEnd fuel (x + 1) (y + 1) else x

/-- How far equal elements go on before two places. -/
def slideBack (a b : Array Nat) (xFirst yFirst : Nat) : Nat → Nat → Nat → Nat
  | 0, x, _ => x
  | fuel + 1, x, y =>
    if xFirst < x && yFirst < y && a[x - 1]? == b[y - 1]? then
      slideBack a b xFirst yFirst fuel (x - 1) (y - 1)
    else x

/-- The part without what is equal at its two ends. -/
def Part.shrunk (a b : Array Nat) (p : Part) : Part :=
  let xFirst := slide a b p.xEnd p.yEnd a.size p.xFirst p.yFirst
  let yFirst := p.yFirst + (xFirst - p.xFirst)
  let xEnd := slideBack a b xFirst yFirst a.size p.xEnd p.yEnd
  ⟨xFirst, xEnd, yFirst, p.yEnd - (p.xEnd - xEnd)⟩

/-- How far a search has come on each diagonal, and on which diagonals it is. -/
structure Front where
  /-- The diagonal that the first place stands for. -/
  base : Int
  reached : Array Int
  low : Int
  high : Int

namespace Front

def reach (f : Front) (diagonal : Int) : Int := f.reached.getD (diagonal - f.base).toNat 0

def set (f : Front) (diagonal x : Int) : Front :=
  { f with reached := f.reached.setIfInBounds (diagonal - f.base).toNat x }

/-- A search that stands on one diagonal. -/
def start (least greatest diagonal x : Int) : Front :=
  let f : Front :=
    { base := least - 1
      reached := Array.replicate (greatest - least + 3).toNat 0
      low := diagonal
      high := diagonal }
  f.set diagonal x

/-- The search with one more diagonal at each side, as far as there are any. What lies beyond is
never reached. -/
def widen (f : Front) (least greatest beyond : Int) : Front :=
  let f := if least < f.low then { f.set (f.low - 2) beyond with low := f.low - 1 }
    else { f with low := f.low + 1 }
  if f.high < greatest then { f.set (f.high + 2) beyond with high := f.high + 1 }
  else { f with high := f.high - 1 }

/-- The diagonals of the next step, the highest one first. -/
def diagonals (f : Front) : List Int :=
  (List.range ((f.high - f.low) / 2 + 1).toNat).map fun n : Nat => f.high - 2 * (n : Int)

end Front

/-- Makes one step from the front on each diagonal, and answers the first place where it comes up to
the search from behind. -/
def stepForward (a b : Array Nat) (p : Part) (meeting : Bool) (behind : Front) :
    List Int → Front → Front × Option (Nat × Nat)
  | [], f => (f, none)
  | d :: ds, f =>
    let x := if f.reach (d - 1) < f.reach (d + 1) then f.reach (d + 1) else f.reach (d - 1) + 1
    let x : Int := slide a b p.xEnd p.yEnd a.size x.toNat (x - d).toNat
    let f := f.set d x
    if meeting && behind.low ≤ d && d ≤ behind.high && behind.reach d ≤ x then
      (f, some (x.toNat, (x - d).toNat))
    else stepForward a b p meeting behind ds f

/-- Makes one step from behind on each diagonal, and answers the first place where it comes up to the
search from the front. -/
def stepBack (a b : Array Nat) (p : Part) (meeting : Bool) (ahead : Front) :
    List Int → Front → Front × Option (Nat × Nat)
  | [], f => (f, none)
  | d :: ds, f =>
    let x := if f.reach (d - 1) < f.reach (d + 1) then f.reach (d - 1) else f.reach (d + 1) - 1
    let x : Int := slideBack a b p.xFirst p.yFirst a.size x.toNat (x - d).toNat
    let f := f.set d x
    if meeting && ahead.low ≤ d && d ≤ ahead.high && x ≤ ahead.reach d then
      (f, some (x.toNat, (x - d).toNat))
    else stepBack a b p meeting ahead ds f

/-- Searches from both ends until the two searches meet. -/
def meet (a b : Array Nat) (p : Part) (odd : Bool) (least greatest : Int) :
    Nat → Front → Front → Nat × Nat
  | 0, _, _ => (p.xEnd, p.yFirst)
  | fuel + 1, ahead, behind =>
    let ahead := ahead.widen least greatest (-1)
    match stepForward a b p odd behind ahead.diagonals ahead with
    | (_, some place) => place
    | (ahead, none) =>
      let behind := behind.widen least greatest (a.size + b.size + 1)
      match stepBack a b p (!odd) ahead behind.diagonals behind with
      | (_, some place) => place
      | (behind, none) => meet a b p odd least greatest fuel ahead behind

/-- A place in the middle through which a shortest way goes. -/
def middle (a b : Array Nat) (p : Part) : Nat × Nat :=
  let least : Int := p.xFirst - p.yEnd
  let greatest : Int := p.xEnd - p.yFirst
  let first : Int := p.xFirst - p.yFirst
  let last : Int := p.xEnd - p.yEnd
  meet a b p ((first - last) % 2 != 0) least greatest (p.xEnd + p.yEnd + 1)
    (.start least greatest first p.xFirst) (.start least greatest last p.xEnd)

/-- Marks elements from one place up to another one. -/
def markRange (marks : Array Bool) (first last : Nat) : Array Bool :=
  (List.range' first (last - first)).foldl (fun marks n => marks.setIfInBounds n true) marks

/-- Marks what differs in a part. -/
def markPart (a b : Array Nat) : Nat → Part → Marks → Marks
  | 0, _, m => m
  | depth + 1, p, m =>
    let p := p.shrunk a b
    if p.xFirst = p.xEnd then { m with right := markRange m.right p.yFirst p.yEnd }
    else if p.yFirst = p.yEnd then { m with left := markRange m.left p.xFirst p.xEnd }
    else
      let (x, y) := middle a b p
      markPart a b depth ⟨x, p.xEnd, y, p.yEnd⟩
        (markPart a b depth ⟨p.xFirst, x, p.yFirst, y⟩ m)

/-- Marks what differs in two sequences. -/
def markAll (a b : Array Nat) : Marks :=
  markPart a b (a.size + b.size + 1) ⟨0, a.size, 0, b.size⟩
    ⟨Array.replicate a.size false, Array.replicate b.size false⟩

/-- Whether an element is marked; beyond the ends none is. -/
def isMarked (marks : Array Bool) (n : Int) : Bool :=
  if n < 0 then false else marks.getD n.toNat false

def setMark (marks : Array Bool) (n : Int) (mark : Bool) : Array Bool :=
  marks.setIfInBounds n.toNat mark

/-- The first place from a place on at which nothing is marked. -/
def endOfRun (marks : Array Bool) : Nat → Int → Int
  | 0, n => n
  | fuel + 1, n => if isMarked marks n then endOfRun marks fuel (n + 1) else n

/-- The first one of the marked elements that stand right before a place. -/
def startOfRun (marks : Array Bool) : Nat → Int → Int
  | 0, n => n
  | fuel + 1, n => if isMarked marks (n - 1) then startOfRun marks fuel (n - 1) else n

/-- The place behind the last element before a place that is not marked, that element left out. -/
def stepOver (marks : Array Bool) : Nat → Int → Int
  | 0, n => n
  | fuel + 1, n => if isMarked marks (n - 1) then stepOver marks fuel (n - 1) else n - 1

/-- A run of marked elements: its first one, the place behind it, and what stands opposite. -/
structure Run where
  marks : Array Bool
  start : Int
  finish : Int
  opposite : Int

/-- Moves a run towards the front as long as the element before it equals its last one. -/
def Run.moveBack (keys : Array Nat) (other : Array Bool) : Nat → Run → Run
  | 0, r => r
  | fuel + 1, r =>
    if 0 < r.start && keys[(r.start - 1).toNat]? == keys[(r.finish - 1).toNat]? then
      let marks := setMark (setMark r.marks (r.start - 1) true) (r.finish - 1) false
      moveBack keys other fuel
        { marks := marks
          start := startOfRun marks marks.size (r.start - 1)
          finish := r.finish - 1
          opposite := stepOver other other.size r.opposite }
    else r

/-- Moves a run towards the end as long as its first element equals the one behind it. Answers also
the last place where it ended beside a run of the other sequence. -/
def Run.moveOn (keys : Array Nat) (other : Array Bool) : Nat → Run → Int → Run × Int
  | 0, r, beside => (r, beside)
  | fuel + 1, r, beside =>
    if r.finish < keys.size && keys[r.start.toNat]? == keys[r.finish.toNat]? then
      let marks := setMark (setMark r.marks r.start false) r.finish true
      let finish := endOfRun marks marks.size (r.finish + 1)
      let opposite := endOfRun other other.size (r.opposite + 1)
      moveOn keys other fuel ⟨marks, r.start + 1, finish, opposite⟩
        (if r.opposite + 1 < opposite then finish else beside)
    else (r, beside)

/-- Moves a run to and fro until it takes no other one in any more. -/
def Run.settle (keys : Array Nat) (other : Array Bool) : Nat → Run → Run × Int
  | 0, r => (r, r.finish)
  | fuel + 1, r =>
    let length := r.finish - r.start
    let r := r.moveBack keys other keys.size
    let beside := if isMarked other (r.opposite - 1) then r.finish else (keys.size : Int)
    let (r, beside) := r.moveOn keys other keys.size beside
    if r.finish - r.start = length then (r, beside) else settle keys other fuel r

/-- Moves a run back to a place beside a run of the other sequence. -/
def Run.moveBeside (other : Array Bool) (beside : Int) : Nat → Run → Run
  | 0, r => r
  | fuel + 1, r =>
    if beside < r.finish then
      moveBeside other beside fuel
        { marks := setMark (setMark r.marks (r.start - 1) true) (r.finish - 1) false
          start := r.start - 1
          finish := r.finish - 1
          opposite := stepOver other other.size r.opposite }
    else r

/-- Moves the runs of one sequence to where they read best, from a place on. -/
def shiftRuns (keys : Array Nat) (other : Array Bool) : Nat → Array Bool → Int → Int → Array Bool
  | 0, marks, _, _ => marks
  | fuel + 1, marks, place, opposite =>
    if keys.size ≤ place then marks
    else if !isMarked marks place then
      shiftRuns keys other fuel marks (place + 1) (endOfRun other other.size opposite + 1)
    else
      let run : Run :=
        { marks := marks
          start := place
          finish := endOfRun marks marks.size place
          opposite := endOfRun other other.size opposite }
      let (run, beside) := run.settle keys other (keys.size + 1)
      let run := run.moveBeside other beside keys.size
      shiftRuns keys other fuel run.marks run.finish run.opposite

/-- Moves the runs of both sequences to where they read best. -/
def Marks.shifted (a b : Array Nat) (m : Marks) : Marks :=
  let left := shiftRuns a m.right (2 * a.size + 1) m.left 0 0
  { left := left, right := shiftRuns b left (2 * b.size + 1) m.right 0 0 }

/-- The stretches that marks make, from two places on. -/
def changesFrom (m : Marks) : Nat → Nat → Nat → List Change
  | 0, _, _ => []
  | fuel + 1, x, y =>
    if m.left.size ≤ x && m.right.size ≤ y then []
    else
      let xEnd := (endOfRun m.left m.left.size x).toNat
      let yEnd := (endOfRun m.right m.right.size y).toNat
      let rest := changesFrom m fuel (xEnd + 1) (yEnd + 1)
      if xEnd = x && yEnd = y then rest else ⟨x, y, xEnd - x, yEnd - y⟩ :: rest

/-- The stretches that marks make. -/
def Marks.changes (m : Marks) : List Change := changesFrom m (m.left.size + m.right.size + 1) 0 0

end ToolHost.Difference
