import ToolHost.Difference.Lines

/-! Three texts side by side: two of them are compared with the third one, and where the stretches in
which they differ from it touch, these are taken together. A merged text has what the last of the
three changed in the second one put into the first one. -/
namespace ToolHost.Difference.Threeway

/-- A stretch of lines, counted from one. An empty one ends before it begins. -/
structure Span where
  low : Int
  high : Int
  deriving DecidableEq, Repr

def Span.count (s : Span) : Nat := (s.high - s.low + 1).toNat

/-- A stretch of a text and the stretch of the common text that stands in its place. -/
structure Pairing where
  own : Span
  common : Span
  deriving DecidableEq, Repr

def Pairing.ofChange (c : Change) : Pairing :=
  ⟨⟨c.left + 1, c.left + c.deleted⟩, ⟨c.right + 1, c.right + c.inserted⟩⟩

/-- One thing for each of the two texts that are compared with the common one. -/
structure Both (α : Type) where
  first : α
  second : α
  deriving DecidableEq, Repr

namespace Both

def get (b : Both α) (second : Bool) : α := if second then b.second else b.first

def set (b : Both α) (second : Bool) (x : α) : Both α :=
  if second then { b with second := x } else { b with first := x }

end Both

/-- Which of three texts differs from the two others, which are equal. -/
inductive Odd where
  | first
  | second
  | third
  /-- No two of them are equal. -/
  | none
  deriving DecidableEq, Repr

/-- A stretch in which three texts are not all equal. -/
structure Region where
  first : Span
  second : Span
  third : Span
  odd : Odd
  deriving DecidableEq, Repr

/-- The same region where the last two texts have changed their places. -/
def Region.swapped (r : Region) : Region :=
  { first := r.first
    second := r.third
    third := r.second
    odd := match r.odd with
      | .second => .third
      | .third => .second
      | odd => odd }

/-- Pairings that were taken together, the last ones first, and those that are left. -/
structure Gathering where
  /-- Whether what was taken goes on longest in the second text. -/
  leader : Bool
  /-- The last line of the common text that was taken. -/
  mark : Int
  taken : Both (List Pairing)
  left : Both (List Pairing)

/-- Takes pairings of the text that does not lead as long as they touch what was taken. -/
def Gathering.grow : Nat → Gathering → Gathering
  | 0, g => g
  | fuel + 1, g =>
    let other := !g.leader
    match g.left.get other with
    | [] => g
    | p :: rest =>
      if p.common.low ≤ g.mark + 1 then
        let g := { g with
          taken := g.taken.set other (p :: g.taken.get other)
          left := g.left.set other rest }
        grow fuel (if g.mark < p.common.high then { g with leader := other, mark := p.common.high }
          else g)
      else g

/-- The line of a text that stands where a line of the common text does, seen from two spans that
belong together. -/
def shifted (own common line : Int) : Int := line - common + own

/-- The lines of a span with their ends. -/
def linesIn (t : Text) (s : Span) : List Bytes :=
  (List.range s.count).map fun n =>
    let place := (s.low - 1).toNat + n
    t.line place ++ if t.isEnded place then [0x0a] else []

/-- The stretches in which two texts and the common one are not all equal. -/
def regionsFrom (first second : Text) : Nat → Both (List Pairing) → Region → List Region
  | 0, _, _ => []
  | fuel + 1, left, last =>
    let start? : Option (Bool × Pairing × List Pairing) := match left.first, left.second with
      | [], [] => none
      | p :: rest, [] => some (false, p, rest)
      | [], p :: rest => some (true, p, rest)
      | p :: rest, q :: others =>
        if q.common.low < p.common.low then some (true, q, others) else some (false, p, rest)
    match start? with
    | none => []
    | some (leader, start, rest) =>
      let g : Gathering :=
        { leader := leader
          mark := start.common.high
          taken := (Both.mk [] []).set leader [start]
          left := left.set leader rest }
      let g := g.grow (left.first.length + left.second.length)
      let common : Span := ⟨start.common.low, g.mark⟩
      let spanOf (second : Bool) : Span :=
        match g.taken.get second with
        | [] =>
          let own := if second then last.second.high else last.first.high
          ⟨shifted own last.third.high common.low, shifted own last.third.high common.high⟩
        | latest :: earlier =>
          let earliest := (latest :: earlier).getLastD latest
          ⟨shifted earliest.own.low earliest.common.low common.low,
            shifted latest.own.high latest.common.high common.high⟩
      let (one, other) := (spanOf false, spanOf true)
      let odd : Odd :=
        if g.taken.first.isEmpty then .second
        else if g.taken.second.isEmpty then .first
        else if linesIn first one = linesIn second other then .third
        else .none
      let region : Region := ⟨one, other, common, odd⟩
      region :: regionsFrom first second fuel g.left region

/-- The stretches in which three texts are not all equal, from how two of them differ from the last
one. -/
def regionsOf (first second : Text) (one other : List Change) : List Region :=
  regionsFrom first second (one.length + other.length + 1)
    ⟨one.map Pairing.ofChange, other.map Pairing.ofChange⟩ ⟨⟨0, 0⟩, ⟨0, 0⟩, ⟨0, 0⟩, .none⟩

/-- Three texts and where they are not all equal. -/
structure Comparison where
  first : Text
  second : Text
  third : Text
  regions : List Region

def textBytes (text : String) : Bytes := text.toUTF8.toList

/-- The span of a region in one of the texts, as the listing names it, and its lines. -/
def listed (indent : Bytes) (t : Text) (n : Nat) (s : Span) (shows : Bool) : Bytes :=
  let place :=
    if s.high < s.low then s!"{s.low - 1}a"
    else if s.low = s.high then s!"{s.low}c"
    else s!"{s.low},{s.high}c"
  let lines := linesIn t s
  let finish : Bytes := match lines.getLast? with
    | some last =>
      if last.getLast? = some 0x0a then [] else textBytes "\n\\ No newline at end of file\n"
    | none => []
  textBytes s!"{n}:{place}\n" ++
    (if shows then (lines.flatMap fun line => indent ++ line) ++ finish else [])

/-- A list of the regions. Of two texts that are equal the lines are shown once. -/
def Comparison.listing (c : Comparison) (indent : Bytes) : Bytes :=
  c.regions.flatMap fun r =>
    let first := listed indent c.first 1 r.first
    let second := listed indent c.second 2 r.second
    let third := listed indent c.third 3 r.third
    match r.odd with
    | .none => textBytes "====\n" ++ first true ++ second true ++ third true
    | .first => textBytes "====1\n" ++ first true ++ second false ++ third true
    | .second => textBytes "====2\n" ++ first false ++ third true ++ second true
    | .third => textBytes "====3\n" ++ first false ++ second true ++ third true

/-- Which changes are wanted, and how those are marked that meet. -/
structure Selection where
  /-- Whether those are shown too that were made in both texts alike. -/
  showsShared : Bool
  /-- Whether changes that meet are put between marks. -/
  marks : Bool
  /-- Whether changes are left out that meet no other ones. -/
  onlyMeeting : Bool
  /-- Whether changes are left out that meet other ones. -/
  onlySimple : Bool
  titles : String × String × String

/-- Whether a region is to be changed, and whether it is put between marks. -/
def Selection.wants (s : Selection) (r : Region) : Option Bool :=
  match r.odd with
  | .first => none
  | .second => if s.showsShared then some true else none
  | .third => if s.onlyMeeting then none else some false
  | .none => if s.onlySimple then none else some s.marks

/-- Lines as an editor takes them in, those with a point in front behind one more. -/
def dotted (lines : List Bytes) : Bytes :=
  lines.flatMap fun line => if line.head? = some 0x2e then 0x2e :: line else line

/-- The end of lines that an editor takes in. Where points were put in front they go again. -/
def undotted (start : Int) (count : Nat) (lines : List Bytes) : Bytes :=
  let fix :=
    if !lines.any (·.head? = some 0x2e) then ""
    else if count = 1 then s!"{start}s/^\\.//\n"
    else s!"{start},{start + count - 1}s/^\\.//\n"
  textBytes (".\n" ++ fix)

/-- The commands that make the first text into the merged one, the last region first, and whether
there are marks. -/
def Comparison.commands (c : Comparison) (s : Selection) : Bytes × Bool :=
  let command (r : Region) (conflict : Bool) : Bytes :=
    let (low, high) := (r.first.low, r.first.high)
    let second := linesIn c.second r.second
    let third := linesIn c.third r.third
    if conflict then
      let middle :=
        if r.odd = .none then
          (if s.showsShared then textBytes s!"||||||| {s.titles.2.1}\n" ++ dotted second else []) ++
            textBytes "=======\n" ++ dotted third
        else []
      let closed := if r.odd = .none then (if s.showsShared then second else []) ++ third else []
      let opened := if r.odd = .second then second else []
      let title := if r.odd = .none then s.titles.1 else s.titles.2.1
      textBytes s!"{high}a\n" ++ middle ++ textBytes s!">>>>>>> {s.titles.2.2}\n" ++
        undotted (high + 2) (second.length + third.length + 1) closed ++
        textBytes s!"{low - 1}a\n<<<<<<< {title}\n" ++
        (if r.odd = .second then dotted second ++ textBytes "=======\n" else []) ++
        undotted (low + 1) second.length opened
    else if third.isEmpty then
      textBytes (if low = high then s!"{low}d\n" else s!"{low},{high}d\n")
    else
      textBytes (if high < low then s!"{high}a\n" else if low = high then s!"{high}c\n"
        else s!"{low},{high}c\n") ++ dotted third ++ undotted low third.length third
  let wanted := c.regions.reverse.filterMap fun r => (s.wants r).map fun conflict => (r, conflict)
  (wanted.flatMap fun (r, conflict) => command r conflict, wanted.any Prod.snd)

/-- The merged text from a line of the first one on. -/
def mergedFrom (c : Comparison) (s : Selection) (read : Int) : List Region → Bytes
  | [] => (linesIn c.first ⟨read + 1, c.first.size⟩).flatten
  | r :: rest =>
    match s.wants r with
    | none => mergedFrom c s read rest
    | some conflict =>
      let (first, second) := (linesIn c.first r.first, linesIn c.second r.second)
      let front :=
        if !conflict then []
        else
          (if r.odd = .none then textBytes s!"<<<<<<< {s.titles.1}\n" ++ first.flatten else []) ++
          (if s.showsShared then
            textBytes (if r.odd = .none then s!"||||||| {s.titles.2.1}\n"
              else s!"<<<<<<< {s.titles.2.1}\n") ++ second.flatten
          else []) ++ textBytes "=======\n"
      (linesIn c.first ⟨read + 1, r.first.low - 1⟩).flatten ++ front ++
        (linesIn c.third r.third).flatten ++
        (if conflict then textBytes s!">>>>>>> {s.titles.2.2}\n" else []) ++
        mergedFrom c s r.first.high rest

/-- The merged text, and whether there are marks in it. -/
def Comparison.merged (c : Comparison) (s : Selection) : Bytes × Bool :=
  (mergedFrom c s 0 c.regions, c.regions.any fun r => s.wants r = some true)

end ToolHost.Difference.Threeway
