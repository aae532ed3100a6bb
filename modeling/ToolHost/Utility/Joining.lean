import ToolHost.Utility.Lines

/-! The programs that bring the lines of two sorted files together. -/
namespace ToolHost.Utility

/-- How much it matters that lines are in order. -/
inductive OrderCheck where
  | never
  /-- From the first line on that has no partner. -/
  | usual
  /-- Nothing goes on if they are not. -/
  | strict
  deriving DecidableEq

/-- How much the order of lines matters by the options. -/
def OrderCheck.of (o : Options) : OrderCheck :=
  match o.lastOf? ['K', 'N'] with
  | some 'K' => .strict
  | some _ => .never
  | none => .usual

/-- One of two sorted files: the records that are still to come, and how the order was kept. -/
structure Sorted (α : Type) where
  rest : List α
  /-- The last record that was taken, and the one before it. -/
  last? : Option α := none
  earlier? : Option α := none
  /-- How many records were taken. -/
  count : Nat := 0
  warned : Bool := false

/-- What has come of two sorted files so far. -/
structure Pairing (α : Type) where
  first : Sorted α
  second : Sorted α
  /-- What is printed, and what is complained about, the last part first. -/
  output : List Bytes := []
  complaints : List String := []
  /-- Whether there was a record without a partner. -/
  unpaired : Bool := false
  /-- Whether nothing more is done. -/
  stopped : Bool := false

namespace Pairing

variable {α : Type}

def say (j : Pairing α) (bytes : Bytes) : Pairing α :=
  if j.stopped then j else { j with output := bytes :: j.output }

def source (j : Pairing α) (second : Bool) : Sorted α := if second then j.second else j.first

def setSource (j : Pairing α) (second : Bool) (s : Sorted α) : Pairing α :=
  if second then { j with second := s } else { j with first := s }

/-- Notes that two records of a file are not in order. -/
def warn (check : OrderCheck) (message : Sorted α → α → String) (second : Bool) (x : α)
    (j : Pairing α) : Pairing α :=
  let s := j.source second
  { j.setSource second { s with warned := true } with
    complaints := message s x :: j.complaints
    stopped := check = .strict }

/-- Compares two records of a file that should be in order. -/
def checkOrder (check : OrderCheck) (greater : α → α → Bool) (message : Sorted α → α → String)
    (second : Bool) (x y : α) (j : Pairing α) : Pairing α :=
  let s := j.source second
  if check != .never && (check = .strict || j.unpaired) && !s.warned && !j.stopped && greater x y then
    j.warn check message second y
  else j

/-- Takes the next record of a file. -/
def take (check : OrderCheck) (greater : α → α → Bool) (message : Sorted α → α → String)
    (second : Bool) (j : Pairing α) : Option α × Pairing α :=
  let s := j.source second
  match s.rest with
  | [] => (none, j)
  | x :: rest =>
    let next : Sorted α :=
      { s with rest := rest, last? := some x, earlier? := s.last?, count := s.count + 1 }
    let j := j.setSource second next
    (some x, match s.last? with
      | some y => j.checkOrder check greater message second y x
      | none => j)

end Pairing

namespace CommonLines

/-- What is asked for. -/
structure Task where
  check : OrderCheck
  hidden : List Nat
  between : Bytes
  mark : UInt8

/-- A line in its column. -/
def Task.row (t : Task) (column : Nat) (line : Bytes) : Bytes :=
  if column ∈ t.hidden then []
  else
    let before := ((List.range column).drop 1).filter fun n => n ∉ t.hidden
    (before.map fun _ => t.between).flatten ++ line ++ [t.mark]

def isGreater (a b : Bytes) : Bool := compareBytes a b = .gt

def message (second : Bool) (_ : Sorted Bytes) (_ : Bytes) : String :=
  let number := if second then 2 else 1
  s!"file {number} is not in sorted order"

/-- Takes the next line of a file; at its end the last two lines are looked at once more. -/
def Task.step (t : Task) (second : Bool) (j : Pairing Bytes) : Option Bytes × Pairing Bytes :=
  let s := j.source second
  match j.take t.check isGreater (message second) second with
  | (none, j) =>
    (none, match s.earlier?, s.last? with
      | some x, some y => j.checkOrder t.check isGreater (message second) second x y
      | _, _ => j)
  | taken => taken

/-- Puts the lines of both files into columns, and counts those of each column. -/
def Task.merge (t : Task) : Nat → Option Bytes → Option Bytes → Nat × Nat × Nat → Pairing Bytes →
    (Nat × Nat × Nat) × Pairing Bytes
  | 0, _, _, counts, j => (counts, j)
  | fuel + 1, first?, second?, (one, two, both), j =>
    if j.stopped then ((one, two, both), j)
    else
      let order? : Option Ordering := match first?, second? with
        | none, none => none
        | none, some _ => some .gt
        | some _, none => some .lt
        | some a, some b => some (compareBytes a b)
      match order? with
      | none => ((one, two, both), j)
      | some .eq =>
        let j := j.say (t.row 3 (second?.getD []))
        let (first?, j) := t.step false j
        let (second?, j) := t.step true j
        t.merge fuel first? second? (one, two, both + 1) j
      | some .lt =>
        let (first?, j) :=
          t.step false { j.say (t.row 1 (first?.getD [])) with unpaired := true }
        t.merge fuel first? second? (one + 1, two, both) j
      | some .gt =>
        let (second?, j) :=
          t.step true { j.say (t.row 2 (second?.getD [])) with unpaired := true }
        t.merge fuel first? second? (one, two + 1, both) j

end CommonLines

/-- Prints what has come of two sorted files, and tells whether their order was kept. -/
def Pairing.report (j : Pairing α) : Doing Nat := do
  Doing.printBytes j.output.reverse.flatten
  j.complaints.reverse.forM Doing.complain
  if j.stopped then return 1
  else if j.first.warned || j.second.warned then
    Doing.complain "input is not in sorted order"
    return 1
  else return 0

/-- Reads two files, or complains about the first one that cannot be read. What is said of a directory
may differ from what its name says. -/
def readTwo (ofDirectory : Path → String) (a b : Path) : Doing (Option (Bytes × Bytes)) := do
  let tell (path : Path) (e : OsError) : Doing Unit :=
    blame (if e = .isADirectory then ofDirectory path else named path) e
  match ← Doing.readNamed a with
  | .error e =>
    tell a e
    return none
  | .ok first =>
    match ← Doing.readNamed b with
    | .error e =>
      tell b e
      return none
    | .ok second => return some (first, second)

open CommonLines in
/-- Shows which lines two sorted files share. -/
def compareSorted : Program := fun _ words => withOptions
  { letters := "123z"
    inner := "KNo:T"
    words := [("check-order", 'K'), ("nocheck-order", 'N'), ("output-delimiter", 'o'),
      ("total", 'T'), ("zero-terminated", 'z')] }
  (fun o => do
    let delimiters := (o.options.filterMap fun (c, value) =>
      if c = 'o' then some value else none).eraseDups
    if 1 < delimiters.length then
      Doing.complain "multiple output delimiters specified"
      return 1
    match o.operands with
    | [a, b] =>
      let between := match delimiters with
        | [] => [0x09]
        | "" :: _ => [0]
        | text :: _ => text.toUTF8.toList
      let mark : UInt8 := if o.has 'z' then 0 else 0x0a
      let hidden := [1, 2, 3].filter fun n => o.has (Char.ofNat ('0'.toNat + n))
      let task : Task := { check := .of o, hidden := hidden, between := between, mark := mark }
      match ← readTwo named a b with
      | none => return 1
      | some (first, second) =>
        let (left, right) := ((partsOf mark first).1, (partsOf mark second).1)
        let j : Pairing Bytes := { first := { rest := left }, second := { rest := right } }
        let (first?, j) := task.step false j
        let (second?, j) := task.step true j
        let ((one, two, both), j) :=
          task.merge (left.length + right.length + 1) first? second? (0, 0, 0) j
        let total :=
          (between.intercalate ((toString one :: toString two :: toString both :: ["total"]).map
            fun text => text.toUTF8.toList)) ++ [mark]
        (if o.has 'T' then j.say total else j).report
    | [] => misused 1 "missing operand"
    | [a] =>
      let last := words.getLastD a
      misused 1 s!"missing operand after {cited last}"
    | _ :: _ :: extra :: _ => misused 1 s!"extra operand {cited extra}") words

namespace Joining

/-- A line with its fields. -/
structure Row where
  line : Bytes
  fields : List Bytes

/-- A field of the output: of the first or the second file, or the one by which lines are joined. -/
inductive Column where
  | key
  | field (second : Bool) (place : Nat)

/-- What is asked for. -/
structure Task where
  check : OrderCheck
  /-- By which field the lines of the two files are joined, counted from zero. -/
  keys : Nat × Nat
  /-- What separates fields; nothing means blanks. -/
  separator? : Option UInt8
  ignoreCase : Bool
  /-- What stands for an empty field. -/
  filler : Bytes
  /-- The fields of the output, if they are chosen. -/
  columns? : Option (List Column)
  /-- Whether each file has as many fields as its first line. -/
  fitted : Bool
  showsPairs : Bool
  showsFirst : Bool
  showsSecond : Bool
  hasHeading : Bool
  mark : UInt8
  names : String × String

/-- The fields of a line between blanks. -/
def fieldsBetweenBlanks (isSeparator : UInt8 → Bool) (line : Bytes) : List Bytes :=
  let line := line.dropWhile isSeparator
  if line.isEmpty then []
  else
    let (parts, last, inGap) := line.foldl
      (fun (state : List Bytes × Bytes × Bool) b =>
        let (parts, part, inGap) := state
        if isSeparator b then
          if inGap then state else (part.reverse :: parts, [], true)
        else (parts, b :: part, false)) ([], [], false)
    (if inGap then ([] : Bytes) :: parts else last.reverse :: parts).reverse

/-- The fields of a line. -/
def Task.rowOf (t : Task) (line : Bytes) : Row :=
  let fields := if line.isEmpty then []
    else match t.separator? with
      | none => fieldsBetweenBlanks (fun b => isBlankByte b || b = 0x0a) line
      | some 0x0a => [line]
      | some mark =>
        let (parts, ended) := partsOf mark line
        if ended then parts ++ [[]] else parts
  ⟨line, fields⟩

/-- The field by which a line of one of the files is joined. -/
def Task.keyOf (t : Task) (second : Bool) (r : Row) : Bytes :=
  let key := r.fields.getD (if second then t.keys.2 else t.keys.1) []
  if t.ignoreCase then key.map fun b => if 0x61 ≤ b && b ≤ 0x7a then b - 0x20 else b else key

def Task.isGreater (t : Task) (second : Bool) (a b : Row) : Bool :=
  compareBytes (t.keyOf second a) (t.keyOf second b) = .gt

def Task.message (t : Task) (second : Bool) (s : Sorted Row) (r : Row) : String :=
  let name := if second then t.names.2 else t.names.1
  s!"{name}:{s.count}: is not sorted: {Bytes.text r.line}"

def Task.take (t : Task) (second : Bool) (j : Pairing Row) : Option Row × Pairing Row :=
  j.take t.check (t.isGreater second) (t.message second) second

/-- A field of a line that may be missing. -/
def Task.fieldText (t : Task) (row? : Option Row) (place : Nat) : Bytes :=
  let field := ((row?.map Row.fields).getD []).getD place []
  if field.isEmpty then t.filler else field

/-- Two lines as one, of which one may be missing. The counts say how many fields each file has. -/
def Task.joined (t : Task) (counts : Nat × Nat) (first? second? : Option Row) : Bytes :=
  let separator := t.separator?.getD 0x20
  let key := match first? with
    | some _ => t.fieldText first? t.keys.1
    | none => t.fieldText second? t.keys.2
  let others (row? : Option Row) (count key : Nat) : List Bytes :=
    let count := if t.fitted then count else ((row?.map Row.fields).getD []).length
    ((List.range count).filter (· != key)).map (t.fieldText row?)
  let fields := match t.columns? with
    | some columns => columns.map fun
      | .key => key
      | .field second place => t.fieldText (if second then second? else first?) place
    | none => key :: others first? counts.1 t.keys.1 ++ others second? counts.2 t.keys.2
  [separator].intercalate fields ++ [t.mark]

/-- Takes the lines of a file as long as they have a key, and then one more. -/
def Task.takeEqual (t : Task) (second : Bool) (key : Bytes) :
    Nat → List Row → Pairing Row → List Row × Option Row × Pairing Row
  | 0, rows, j => (rows.reverse, none, j)
  | fuel + 1, rows, j =>
    match t.take second j with
    | (none, j) => (rows.reverse, none, j)
    | (some row, j) =>
      if t.keyOf second row = key then t.takeEqual second key fuel (row :: rows) j
      else (rows.reverse, some row, j)

/-- Joins lines as long as both files have some. Answers the lines taken last. -/
def Task.join (t : Task) (counts : Nat × Nat) :
    Nat → Option Row → Option Row → Pairing Row → Option Row × Option Row × Pairing Row
  | 0, first?, second?, j => (first?, second?, j)
  | fuel + 1, first?, second?, j =>
    match first?, second? with
    | some a, some b =>
      if j.stopped then (first?, second?, j)
      else
        match compareBytes (t.keyOf false a) (t.keyOf true b) with
        | .lt =>
          let j := if t.showsFirst then j.say (t.joined counts first? none) else j
          let (first?, j) := t.take false j
          t.join counts fuel first? second? { j with unpaired := true }
        | .gt =>
          let j := if t.showsSecond then j.say (t.joined counts none second?) else j
          let (second?, j) := t.take true j
          t.join counts fuel first? second? { j with unpaired := true }
        | .eq =>
          let key := t.keyOf false a
          let (rows, first?, j) := t.takeEqual false key (j.first.rest.length + 1) [a] j
          let (others, second?, j) := t.takeEqual true key (j.second.rest.length + 1) [b] j
          let pairs := rows.flatMap fun row => others.map fun other =>
            t.joined counts (some row) (some other)
          let j := if t.showsPairs then j.say pairs.flatten else j
          t.join counts fuel first? second? j
    | _, _ => (first?, second?, j)

/-- Looks at the lines of a file that are left when the other one has come to its end. -/
def Task.finish (t : Task) (counts : Nat × Nat) (second shows : Bool) :
    Nat → Option Row → Pairing Row → Pairing Row
  | 0, _, j => j
  | _, none, j => j
  | fuel + 1, row?, j =>
    let j := if !shows then j
      else j.say (if second then t.joined counts none row? else t.joined counts row? none)
    if (j.source second).warned && !shows then j
    else
      let (row?, j) := t.take second j
      t.finish counts second shows fuel row? j

/-- Joins two files. -/
def Task.run (t : Task) (first second : Bytes) : Pairing Row :=
  let rows (bytes : Bytes) : List Row := (partsOf t.mark bytes).1.map t.rowOf
  let j : Pairing Row := { first := { rest := rows first }, second := { rest := rows second } }
  let fuel := j.first.rest.length + j.second.rest.length + 2
  let (first?, j) := t.take false j
  let (second?, j) := t.take true j
  let count (row? : Option Row) : Nat := ((row?.map Row.fields).getD []).length
  let counts := (count first?, count second?)
  let (first?, second?, j) :=
    if t.hasHeading && (first?.isSome || second?.isSome) then
      let j := j.say (t.joined counts first? second?)
      let j := { j with first.last? := none, second.last? := none }
      let (one?, j) := if first?.isSome then t.take false j else (none, j)
      let (other?, j) := if second?.isSome then t.take true j else (none, j)
      (one?, other?, j)
    else (first?, second?, j)
  let (first?, second?, j) := t.join counts fuel first? second? j
  let looksOn := t.check != .never && !(j.first.warned && j.second.warned)
  let bothLeft (j : Pairing Row) (row? : Option Row) : Pairing Row :=
    if row?.isSome then { j with unpaired := true } else j
  let j := if (t.showsFirst || looksOn) && first?.isSome then
      t.finish counts false t.showsFirst fuel first? (bothLeft j second?)
    else j
  if (t.showsSecond || looksOn) && second?.isSome then
    t.finish counts true t.showsSecond fuel second? (bothLeft j first?)
  else j

/-- Why lines are not joined. -/
inductive Refusal where
  | misuse (problem : String)
  | problem (text : String)

/-- The number of a field, counted from zero. -/
def readPlace (text : String) : Except Refusal Nat :=
  match text.toNat? with
  | some (n + 1) => .ok n
  | _ => .error (.problem s!"invalid field number: {cited text}")

/-- The fields of the output, as a word lists them. -/
def readColumns (text : String) : Except Refusal (List Column) :=
  let words := (Path.splitAt ' ' (text.toList.map fun c => if c = ',' || c = '\t' then ' ' else c))
  words.mapM fun word =>
    match word with
    | ['0'] => .ok .key
    | '0' :: _ => .error (.problem s!"invalid field specifier: {cited (String.ofList word)}")
    | '1' :: '.' :: place => (readPlace (String.ofList place)).map (Column.field false)
    | '2' :: '.' :: place => (readPlace (String.ofList place)).map (Column.field true)
    | '1' :: _ | '2' :: _ =>
      .error (.problem s!"invalid field specifier: {cited (String.ofList word)}")
    | _ => .error (.problem s!"invalid file number in field spec: {cited (String.ofList word)}")

/-- What options ask for. -/
def readTask (o : Options) (names : String × String) : Except Refusal Task := do
  let fileNumber (text : String) : Except Refusal Nat :=
    if text = "1" then .ok 1
    else if text = "2" then .ok 2
    else .error (.problem s!"invalid field number: {cited text}")
  let chosen (letter : Char) : Except Refusal (List Nat) :=
    (o.options.filter fun (c, _) => c = letter).mapM fun (_, text) => fileNumber text
  let added ← chosen 'a'
  let only ← chosen 'v'
  let key (letters : List Char) : Except Refusal Nat := do
    let given := (o.options.filter fun (c, _) => c ∈ letters).map Prod.snd
    let places : List Nat ← given.mapM readPlace
    match places.eraseDups with
    | [] => return 0
    | [n] => return n
    | first :: second :: _ =>
      throw (.problem s!"incompatible join fields {first}, {second}")
  let separator (text : String) : Except Refusal UInt8 :=
    match text.toUTF8.toList with
    | [] => .ok 0x0a
    | [b] => .ok b
    | [0x5c, 0x30] => .ok 0
    | _ => .error (.problem s!"multi-character tab {cited text}")
  let separators ← ((o.options.filter fun (c, _) => c = 't').map Prod.snd).mapM separator
  if 1 < separators.eraseDups.length then throw (.problem "incompatible tabs")
  let fillers := (o.options.filter fun (c, _) => c = 'e').map Prod.snd
  if 1 < fillers.eraseDups.length then throw (.problem "conflicting empty-field replacement strings")
  let formats := (o.options.filter fun (c, _) => c = 'o').map Prod.snd
  let columns ← (formats.filter (· != "auto")).mapM readColumns
  return {
    check := .of o
    keys := (← key ['1', 'j'], ← key ['2', 'j'])
    separator? := separators.head?
    ignoreCase := o.has 'i'
    filler := (fillers.headD "").toUTF8.toList
    columns? := if columns.isEmpty then none else some columns.flatten
    fitted := formats.contains "auto"
    showsPairs := only.isEmpty
    showsFirst := 1 ∈ added ++ only
    showsSecond := 2 ∈ added ++ only
    hasHeading := o.has 'H'
    mark := if o.has 'z' then 0 else 0x0a
    names := names }

end Joining

open Joining in
/-- Joins the lines of two sorted files that have a field in common. -/
def joinLines : Program := fun _ words => withOptions
  { letters := "a:e:i1:2:j:o:t:v:z"
    inner := "KNH"
    words := [("ignore-case", 'i'), ("check-order", 'K'), ("nocheck-order", 'N'),
      ("zero-terminated", 'z'), ("header", 'H')] }
  (fun o => do
    match readTask o (o.operands.getD 0 "", o.operands.getD 1 ""), o.operands with
    | .error (.misuse problem), _ => misused 1 problem
    | .error (.problem text), _ =>
      Doing.complain text
      return 1
    | .ok task, [a, b] =>
      if a = "-" && b = "-" then
        Doing.complain "both files cannot be standard input"
        return 1
      match ← readTwo (fun _ => "read error") a b with
      | none => return 1
      | some (first, second) => (task.run first second).report
    | .ok _, [] => misused 1 "missing operand"
    | .ok _, [a] =>
      let last := words.getLastD a
      misused 1 s!"missing operand after {cited last}"
    | .ok _, _ :: _ :: extra :: _ => misused 1 s!"extra operand {cited extra}") words

end ToolHost.Utility
