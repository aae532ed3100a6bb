import ToolHost.Text.Regex.Reading
import ToolHost.Utility.Streams

/-! The programs that count lines, or pass them on with their numbers. -/
namespace ToolHost.Utility

def isPrinting (b : UInt8) : Bool := 0x20 ≤ b && b < 0x7f

/-- The words in bytes. What does not print makes no word. -/
def wordCount (bytes : Bytes) : Nat :=
  let isBlank (b : UInt8) : Bool := b = 0x20 || (0x09 ≤ b && b ≤ 0x0d)
  let (count, inside) := bytes.foldl (fun (count, inside) b =>
    if isBlank b then (if inside then count + 1 else count, false)
    else (count, inside || isPrinting b)) (0, false)
  if inside then count + 1 else count

/-- The length of the longest line, in columns. -/
def longestLine (bytes : Bytes) : Nat :=
  let (longest, column) := bytes.foldl (fun (longest, column) b =>
    if b = 0x0a || b = 0x0d || b = 0x0c then (max longest column, 0)
    else if b = 0x09 then (longest, column / 8 * 8 + 8)
    else if isPrinting b then (longest, column + 1)
    else (longest, column)) (0, 0)
  max longest column

/-- When sums over all files are printed. -/
inductive Totals where
  | ifSeveral
  | always
  /-- And nothing else is. -/
  | only
  | never
  deriving DecidableEq

/-- The words for when sums are printed. -/
def Totals.words : List (String × Totals) :=
  [("auto", .ifSeveral), ("always", .always), ("only", .only), ("never", .never)]

/-- Counts lines, words and bytes. -/
def countAll : Program := fun _ => withOptions
  { letters := "clLmw"
    inner := "f:t:"
    words := [("bytes", 'c'), ("chars", 'm'), ("lines", 'l'), ("words", 'w'),
      ("files0-from", 'f'), ("max-line-length", 'L'), ("total", 't')] } fun o => do
    let p ← get
    let word := (o.last? 't').getD "auto"
    let some totals ← choiceOf? "--total" Totals.words word | return 1
    let chosen := ['l', 'w', 'm', 'c', 'L'].filter o.has
    let wanted := if chosen.isEmpty then ['l', 'w', 'c'] else chosen
    let counts (bytes : Bytes) : List Nat := wanted.map fun
      | 'l' => bytes.count 0x0a
      | 'w' => wordCount bytes
      | 'L' => longestLine bytes
      | _ => bytes.length
    -- the size of an ordinary file, unless nothing is known of one
    let sizeOf (name : String) : Option (Option Nat) :=
      if name = "-" then
        match (p.channel? 0).map p.world.channel with
        | some (.file number ..) => some (some (p.world.files.fileData number).1.length)
        | _ => some none
      else
        match p.world.files.find p.cwd name with
        | .ok (_, .file content _) => some (some content.length)
        | .ok _ => some none
        | .error _ => none
    let names := if o.operands.isEmpty then ["-"] else o.operands
    let sizes := names.map sizeOf
    let known := sizes.filterMap id
    let width :=
      if totals = .only || (wanted.length = 1 && names.length = 1) then 1
      else max (toString ((known.filterMap id).foldl (· + ·) 0)).length (if known.contains none then 7 else 1)
    let row (counts : List Nat) (name : String) : String :=
      " ".intercalate (counts.map (padded width)) ++ (if name = "" then "" else " " ++ name) ++ "\n"
    let mut status := 0
    let mut sums := wanted.map fun _ => 0
    for name in names do
      match ← Doing.readNamed name with
      | .error e =>
        blame (named name) e
        status := 1
        if (e matches .isADirectory) && totals != .only then
          Doing.print (row (wanted.map fun _ => 0) name)
      | .ok bytes =>
        let numbers := counts bytes
        sums := ((sums.zip numbers).zip wanted).map fun ((a, b), c) =>
          if c = 'L' then max a b else a + b
        if totals != .only then
          Doing.print (row numbers (if o.operands.isEmpty then "" else name))
    if totals = .only then Doing.print (row sums "")
    else if totals = .always || (totals = .ifSeveral && 1 < names.length) then
      Doing.print (row sums "total")
    return status

namespace Numbering

/-- Which lines of a section get numbers. -/
inductive Style where
  | all
  | filled
  | none
  | those (r : Text.Regex)

/-- The three sections of a page. -/
inductive Section where
  | header
  | body
  | footer
  deriving DecidableEq

/-- How numbers stand in their fields. -/
inductive Placing where
  | left
  | right
  | zeros

/-- What is asked for. -/
structure Task where
  styles : Section → Style
  /-- What a line is made of that begins a section. -/
  mark : Bytes
  start : Int
  step : Int
  /-- How many empty lines count as one. -/
  joined : Nat
  width : Nat
  placing : Placing
  separator : Bytes
  goesOn : Bool

/-- The section that a line begins. -/
def Task.sectionOf? (t : Task) (line : Bytes) : Option Section :=
  if t.mark.length < 2 then Option.none
  else if line = t.mark ++ t.mark ++ t.mark then some .header
  else if line = t.mark ++ t.mark then some .body
  else if line = t.mark then some .footer
  else Option.none

/-- A number in its field. -/
def Task.number (t : Task) (n : Int) : Bytes :=
  let digits := toString n
  let missing := t.width - digits.length
  let text := match t.placing with
    | .left => digits ++ "".pushn ' ' missing
    | .right => "".pushn ' ' missing ++ digits
    | .zeros => (if n < 0 then "-" else "") ++ "".pushn '0' missing ++ toString n.natAbs
  text.toUTF8.toList ++ t.separator

/-- How far the numbers have come. -/
structure Progress where
  place : Section := .body
  next : Int
  /-- How many empty lines there were since the last one with a number. -/
  empty : Nat := 0

/-- The line as it is printed. -/
def Task.line (t : Task) (s : Progress) (line : Bytes) : Bytes × Progress :=
  match t.sectionOf? line with
  | some place =>
    ([0x0a], { s with place := place, next := if t.goesOn then s.next else t.start })
  | Option.none =>
    let (wanted, s) := match t.styles s.place with
      | .all =>
        if t.joined ≤ 1 then (true, s)
        else if !line.isEmpty || s.empty + 1 = t.joined then (true, { s with empty := 0 })
        else (false, { s with empty := s.empty + 1 })
      | .filled => (!line.isEmpty, s)
      | .none => (false, s)
      | .those r => ((r.find? (· == ·) (Bytes.units line) 0).isSome, s)
    if wanted then (t.number s.next ++ line ++ [0x0a], { s with next := s.next + t.step })
    else (List.replicate (t.width + t.separator.length) 0x20 ++ line ++ [0x0a], s)

/-- The style that a word asks for; an error may say more than that there is none. -/
def readStyle (kind word : String) : Except (Bool × String) Style :=
  match word.toList with
  | ['a'] => .ok .all
  | ['t'] => .ok .filled
  | ['n'] => .ok .none
  | 'p' :: pattern =>
    match Text.Regex.read (Text.Regex.Dialect.searching false) pattern with
    | .ok (r, _) => .ok (.those r)
    | .error _ => .error (false, "Invalid regular expression")
  | _ => .error (true, s!"invalid {kind} numbering style: {cited word}")

/-- A whole number that a word gives. -/
def readNumber (least : Int) (called word : String) : Except (Bool × String) Int :=
  match (if word.startsWith "+" then (word.drop 1).toString else word).toInt? with
  | some n =>
    if n < least then
      .error (false, s!"invalid {called}: {cited word}: Numerical result out of range")
    else .ok n
  | Option.none => .error (false, s!"invalid {called}: {cited word}")

/-- What options ask for. An error tells whether the user is pointed to help. -/
def readTask (o : Options) : Except (Bool × String) Task := do
  let number (letter : Char) (least : Int) (called : String) (usual : Int) :
      Except (Bool × String) Int :=
    match o.last? letter with
    | some word => readNumber least called word
    | Option.none => .ok usual
  let header ← readStyle "header" ((o.last? 'h').getD "n")
  let body ← readStyle "body" ((o.last? 'b').getD "t")
  let footer ← readStyle "footer" ((o.last? 'f').getD "n")
  let placing ← match (o.last? 'n').getD "rn" with
    | "ln" => .ok .left
    | "rn" => .ok .right
    | "rz" => .ok .zeros
    | word => .error (true, s!"invalid line numbering format: {cited word}")
  return {
    styles := fun
      | .header => header
      | .body => body
      | .footer => footer
    mark := match ((o.last? 'd').getD "\\:").toUTF8.toList with
      | [b] => [b, 0x3a]
      | bytes => bytes
    start := ← number 'v' leastInt "starting line number" 1
    step := ← number 'i' leastInt "line number increment" 1
    joined := (← number 'l' 1 "line number of blank lines" 1).toNat
    width := (← number 'w' 1 "line number field width" 6).toNat
    placing := placing
    separator := ((o.last? 's').getD "\t").toUTF8.toList
    goesOn := o.has 'p' }

end Numbering

/-- Passes on lines with numbers. -/
def numberLines : Program := fun _ => withOptions
  { letters := "h:b:f:v:i:pl:s:w:n:d:"
    words := [("header-numbering", 'h'), ("body-numbering", 'b'), ("footer-numbering", 'f'),
      ("starting-line-number", 'v'), ("line-increment", 'i'), ("no-renumber", 'p'),
      ("join-blank-lines", 'l'), ("number-separator", 's'), ("number-width", 'w'),
      ("number-format", 'n'), ("section-delimiter", 'd')] } fun o => do
    match Numbering.readTask o with
    | .error (true, problem) => misused 1 problem
    | .error (false, problem) =>
      Doing.complain problem
      return 1
    | .ok task =>
      let (contents, failed) ← readOperands o.operands
      let mut progress : Numbering.Progress := { next := task.start }
      for (_, bytes) in contents do
        for line in (linesOf bytes).1 do
          let (shown, next) := task.line progress line
          Doing.printBytes shown
          progress := next
      return if failed then 1 else 0

end ToolHost.Utility
