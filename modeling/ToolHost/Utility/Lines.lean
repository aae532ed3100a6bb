import ToolHost.Utility.Streams

/-! The order of lines, and the program that puts runs of equal lines together. -/
namespace ToolHost.Utility

def isBlankByte (b : UInt8) : Bool := b = 0x20 || b = 0x09

/-- Compares texts byte by byte. -/
def compareBytes : Bytes → Bytes → Ordering
  | [], [] => .eq
  | [], _ => .lt
  | _, [] => .gt
  | a :: as, b :: bs => if a = b then compareBytes as bs else if a < b then .lt else .gt

namespace Runs

/-- Which lines of a run are shown. -/
structure Shown where
  /-- The line of a run of one. -/
  single : Bool
  /-- The first line of a longer run. -/
  first : Bool
  /-- The other lines of a longer run. -/
  others : Bool
  counts : Bool

/-- Where empty lines stand that keep runs apart. -/
inductive Apart where
  | between
  | before
  | behind
  | around
  deriving DecidableEq

/-- The lines of one run that are shown. -/
def Shown.lines (s : Shown) (run : List Bytes) : List Bytes :=
  let last := if run.length ≤ 1 then s.single else s.first
  let kept := if s.others then run.dropLast ++ (if last then run.getLast?.toList else [])
    else if last then run.head?.toList else []
  if s.counts then
    kept.map fun line => (padded 7 run.length ++ " ").toUTF8.toList ++ line
  else kept

/-- All lines of all runs, with empty lines between the runs. -/
def grouped (apart : Apart) (runs : List (List Bytes)) : List Bytes :=
  let lines := runs.zipIdx.flatMap fun (run, n) =>
    if apart = .before || apart = .around || 0 < n then [] :: run else run
  if (apart = .behind || apart = .around) && !runs.isEmpty then lines ++ [[]] else lines

/-- The lines of repeated runs, with empty lines between the runs if that is wanted. -/
def repeated (s : Shown) (apart? : Option Apart) (runs : List (List Bytes)) : List Bytes :=
  let step (state : List Bytes × Bool) (run : List Bytes) : List Bytes × Bool :=
    let (lines, behindOther) := state
    let several := 1 < run.length
    let empty := several && (apart? = some .before || (apart? = some .between && behindOther))
    (lines ++ (if empty then [[]] else []) ++ s.lines run, behindOther || several)
  (runs.foldl step ([], false)).1

def groupWords : List (String × Option Apart) :=
  [("prepend", some .before), ("append", some .behind), ("separate", some .between),
    ("both", some .around)]

def repeatWords : List (String × Option Apart) :=
  [("none", none), ("prepend", some .before), ("separate", some .between)]

end Runs

open Runs in
/-- Puts runs of equal lines together. -/
def uniq : Program := fun _ => withOptions
  { letters := "cdDf:is:uw:z"
    optional := "AG"
    inner := "AG"
    words := [("count", 'c'), ("repeated", 'd'), ("all-repeated", 'A'), ("group", 'G'),
      ("ignore-case", 'i'), ("unique", 'u'), ("skip-fields", 'f'), ("skip-chars", 's'),
      ("check-chars", 'w'), ("zero-terminated", 'z')] }
  fun o => do
    let chosen (letter : Char) (option usual : String) (words : List (String × Option Apart)) :
        Doing (Option (Option (Option Apart))) := do
      match o.last? letter with
      | none => return some none
      | some word =>
        return (← choiceOf? option words (if word = "" then usual else word)).map some
    let counts : List (Char × String) :=
      [('f', "fields to skip"), ('s', "bytes to skip"), ('w', "bytes to compare")]
    for (c, value) in o.options do
      match counts.lookup c with
      | some called =>
        if value.toNat?.isNone then
          Doing.complain s!"{value}: invalid number of {called}"
          return 1
      | none => pure ()
    match ← chosen 'G' "--group" "separate" groupWords with
    | none => return 1
    | some group? =>
      let some repeated? ← chosen 'A' "--all-repeated" "none" repeatWords | return 1
      match o.operands[2]? with
      | some extra => return ← misused 1 s!"extra operand {cited extra}"
      | none => pure ()
      let all := o.has 'D' || repeated?.isSome
      if group?.isSome && (all || o.has 'c' || o.has 'd' || o.has 'u') then
        return ← misused 1 "--group is mutually exclusive with -c/-d/-D/-u"
      if all && o.has 'c' then
        return ← misused 1 "printing all duplicated lines and repeat counts is meaningless"
      let number (letter : Char) : Option Nat := (o.last? letter).bind String.toNat?
      let skipField (line : Bytes) : Bytes :=
        (line.dropWhile isBlankByte).dropWhile fun b => !isBlankByte b
      let key (line : Bytes) : Bytes :=
        let line := (List.range ((number 'f').getD 0)).foldl (fun line _ => skipField line) line
        let line := line.drop ((number 's').getD 0)
        let line := match number 'w' with
          | some n => line.take n
          | none => line
        if o.has 'i' then line.map fun b => if 0x61 ≤ b && b ≤ 0x7a then b - 0x20 else b else line
      let name := o.operands.headD "-"
      let bytes ← match ← Doing.readNamed name with
        | .ok bytes => pure bytes
        | .error e =>
          blame (if e = .isADirectory then s!"error reading {quoted name}" else named name) e
          return 1
      let lines := (partsOf o.mark bytes).1
      let runs := lines.splitBy fun a b => key a == key b
      let shown : Runs.Shown :=
        { single := !(all || o.has 'd'), first := !o.has 'u', others := all, counts := o.has 'c' }
      let rows := match group? with
        | some apart? => grouped (apart?.getD .between) runs
        | none => repeated shown repeated?.join runs
      let output := ofParts o.mark rows
      match o.operands[1]? with
      | none =>
        Doing.printBytes output
        return 0
      | some "-" =>
        Doing.printBytes output
        return 0
      | some name =>
        match (← get).openToWrite Doing.ownDescriptor name false false with
        | .ok opened =>
          set ((opened.write Doing.ownDescriptor output).close Doing.ownDescriptor)
          return 0
        | .error e =>
          blame (named name) e
          return 1

end ToolHost.Utility
