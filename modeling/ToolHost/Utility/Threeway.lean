import ToolHost.Difference.Threeway
import ToolHost.Utility.Differ

/-! The programs that show three files or two files side by side. -/
namespace ToolHost.Utility

namespace Threeway

open Difference
open Difference.Threeway

/-- How many lines that are equal at the ends of two texts are looked at none the less. -/
def horizon : Nat := 100

/-- What options ask for. -/
structure Task where
  asText : Bool
  dropsReturns : Bool
  commands : Bool
  merges : Bool
  ends : Bool
  indent : Bytes
  selection : Selection

/-- What options ask for, if they go together. -/
def taskOf? (o : Options) (paths : List Path) : Option Task :=
  let manners := (o.options.filter fun (c, _) => c ∈ ['A', 'x', '3', 'X', 'E', 'e']).map Prod.fst
  let merges := o.has 'm'
  let labels := o.options.filterMap fun (c, value) => if c = 'L' then some value else none
  let marks := manners.any (· ∈ ['A', 'E']) || (manners.isEmpty && merges)
  if 1 < manners.length || (o.has 'i' && merges) || (!labels.isEmpty && !marks) then none
  else
    let title (n : Nat) : String := labels.getD n (paths.getD n "")
    some
      { asText := o.has 'a'
        dropsReturns := o.has 'R'
        commands := !manners.isEmpty && !merges
        merges := merges
        ends := o.has 'i'
        indent := if o.has 'T' then [0x09] else [0x20, 0x20]
        selection :=
          { showsShared := manners.contains 'A' || (manners.isEmpty && merges)
            marks := marks
            onlyMeeting := manners.contains 'x' || manners.contains 'X'
            onlySimple := manners.contains '3'
            titles := (title 0, title 1, title 2) } }

/-- How often the last line of one of two texts is among their differences and has no end. -/
def openEnds (a b : Text) (changes : List Change) : Nat :=
  let isOpen (t : Text) (stop count : Nat) : Bool := !t.ended && stop = t.size && count != 0
  changes.countP (fun c => isOpen a (c.left + c.deleted) c.deleted) +
    changes.countP fun c => isOpen b (c.right + c.inserted) c.inserted

/-- Tells that the comparison of two of the files came to nothing. -/
def failComparing (text : String) : Doing Nat := do
  Doing.complain text
  return 2

/-- Compares three files. -/
def run (t : Task) (paths : List Path) : Doing Nat := do
  let path (n : Nat) : Path := paths.getD n ""
  let usual := if t.commands || t.merges then 1 else 2
  let common := if path usual = "-" then 3 - usual else usual
  if path usual = "-" && (path 0 = "-" || path common = "-") then
    return ← failComparing "'-' specified for more than one input file"
  let mut contents : List (Nat × Bytes) := []
  for (own, other) in [(3 - common, common), (0, common)] do
    for n in [own, other] do
      if (contents.lookup n).isNone then
        match ← Differ.subjectOf (path n) with
        | .error e =>
          modify fun p => p.write 2 s!"diff: {path n}: {e.description}\n".toUTF8.toList
          return ← failComparing "subsidiary program 'diff' failed (exit status 2)"
        | .ok subject =>
          match ← Differ.contentOf subject with
          | .ok bytes => contents := contents ++ [(n, bytes)]
          | .error _ =>
            let kind (m : Nat) : Doing String := do
              return match ← Differ.subjectOf (path m) with
                | .ok subject => subject.kind
                | .error _ => "regular file"
            let (one, two) := (← kind own, ← kind other)
            return ← failComparing
              s!"diff failed: File {path own} is a {one} while file {path other} is a {two}"
    let binary (n : Nat) : Bool := 0 ∈ ((contents.lookup n).getD []).take Differ.sampleSize
    if !t.asText && (binary own || binary other) && contents.lookup own != contents.lookup other then
      return ← failComparing s!"diff failed: Binary files {path own} and {path other} differ"
  let text (n : Nat) : Text :=
    let bytes := (contents.lookup n).getD []
    .ofBytes (if t.dropsReturns then Differ.withoutReturns bytes else bytes)
  let exact : Sameness := { blanks := .matter, ignoreCase := false, tabWidth := 8 }
  let changes (n : Nat) : List Change :=
    changesOf exact false horizon true (text n) (text common)
  let shown (n : Nat) : Text := { text n with ended := (text n).ended || t.commands }
  let regions := regionsOf (shown 0) (shown (3 - common)) (changes 0) (changes (3 - common))
  if t.commands then
    let count (n : Nat) : Nat := openEnds (text n) (text common) (changes n)
    for _ in List.range (count 0 + count (3 - common)) do Doing.complain "No newline at end of file"
  let comparison : Comparison :=
    { first := shown 0
      second := shown 1
      third := shown 2
      regions := if common = 1 then regions.map Region.swapped else regions }
  let (bytes, marked) :=
    if t.commands then comparison.commands t.selection
    else if t.merges then comparison.merged t.selection
    else (comparison.listing t.indent, false)
  Doing.printBytes (bytes ++ if t.ends then "w\nq\n".toUTF8.toList else [])
  return if marked then 1 else 0

end Threeway

/-- Shows where three files are not all equal, or merges what two of them change in a third one. -/
def compareThree : Program := fun _ words => withOptions
  { letters := "aeimvx3AEL:TX"
    inner := "R"
    words := [("text", 'a'), ("show-all", 'A'), ("ed", 'e'), ("show-overlap", 'E'), ("label", 'L'),
      ("merge", 'm'), ("initial-tab", 'T'), ("overlap-only", 'x'), ("easy-only", '3'),
      ("strip-trailing-cr", 'R')]
    failure := 2
    hint := namedHint }
  (fun o => do
    if o.has 'v' then return 0
    if 3 < (o.options.filter fun (c, _) => c = 'L').length then
      return ← miscompared "too many file label options"
    match Threeway.taskOf? o o.operands, o.operands with
    | none, _ => miscompared "incompatible options"
    | some task, [_, _, _] => Threeway.run task o.operands
    | some _, _ :: _ :: _ :: extra :: _ => miscompared s!"extra operand '{extra}'"
    | some _, _ =>
      let last := words.getLastD (← get).name
      miscompared s!"missing operand after '{last}'") words

/-- Shows two files side by side. -/
def compareInColumns : Program := fun start words => withOptions
  { letters := "abBdEHiI:lo:stvw:WZ"
    inner := "RQ:p:"
    words := [("diff-program", 'p'), ("expand-tabs", 't'), ("ignore-all-space", 'W'),
      ("ignore-blank-lines", 'B'), ("ignore-case", 'i'), ("ignore-matching-lines", 'I'),
      ("ignore-space-change", 'b'), ("ignore-tab-expansion", 'E'), ("ignore-trailing-space", 'Z'),
      ("left-column", 'l'), ("minimal", 'd'), ("output", 'o'), ("speed-large-files", 'H'),
      ("strip-trailing-cr", 'R'), ("suppress-common-lines", 's'), ("tabsize", 'Q'), ("text", 'a'),
      ("width", 'w')]
    failure := 2
    hint := namedHint }
  (fun o => do
    let options := o.options.flatMap fun (c, value) =>
      match c with
      | 'I' => ["-I", value]
      | 'w' => ["-W", value]
      | 'W' => ["-w"]
      | 'l' => ["--left-column"]
      | 's' => ["--suppress-common-lines"]
      | 'R' => ["--strip-trailing-cr"]
      | 'Q' => ["--tabsize=" ++ value]
      | 'o' | 'p' | 'v' => []
      | c => ["-" ++ String.singleton c]
    match o.operands with
    | [_, _] =>
      modify fun p => { p with name := "diff" }
      diff start (options ++ ["-y", "--"] ++ o.operands)
    | _ :: _ :: extra :: _ => miscompared s!"extra operand '{extra}'"
    | _ =>
      let last := words.getLastD (← get).name
      miscompared s!"missing operand after '{last}'") words

end ToolHost.Utility
